import VeriAgentPay.CodeRedemption
import VeriAgentPay.IdentityPersistence

/-!
# What the services link

The services of account linking keep to the invariant of redeemed codes, operation by operation, and
a failed delivery shows what they do without it.
-/

namespace VeriAgentPay.AccountLinking
open InterleavedPrograms KeyedTables
open InterleavedPrograms.Fallible (checked check onFailure dropResult)
open Backend (Failure trim truthy)
open CheckedOutcome (orError)
open Identity (SocialNode User Setting isNumeric)

section Walks

variable {d : Setting} {i : ℕ} {op : Operation} {K : Tables → Prop} {held : Holding}

/-- A routine request, and what follows it. -/
theorem upholds_routine_then {α : Type} {r : Request} {f : Answer r → Service α}
    {Q : α → Tables → Holding → Prop} {E : Tables → Holding → Prop} (hr : r.isRoutine)
    (hK : (linkingCustody d).Stable K)
    (hf : ∀ x, (linkingCustody d).Upholds i op (f x) K held Q E) :
    (linkingCustody d).Upholds i op (ask r >>= f) K held Q E := by
  refine Custody.Keeps.andThen (F := fun _ => False) (keeps_routine hr hK) hf ?_
  exact fun _ hnever => hnever.elim

theorem keeps_resolveOrCreateUser {newId key : String} (hK : (linkingCustody d).Stable K) :
    (linkingCustody d).Keeps i op (AccountService.resolveOrCreateUser d newId key) K held
      (fun _ => K) fun _ => True := by
  unfold AccountService.resolveOrCreateUser
  apply upholds_routine_then rfl hK
  intro user
  cases user with
  | some user =>
    apply Custody.Upholds.pure
    exact fun _ ht => ⟨rfl, ht⟩
  | none =>
    dsimp only
    split_ifs
    · unfold AccountService.createAccount
      apply upholds_routine_then rfl hK
      intro created
      apply Custody.Upholds.pure
      exact fun _ ht => ⟨rfl, ht⟩
    · apply Custody.Upholds.pure
      exact fun _ ht => ⟨rfl, ht⟩

theorem keeps_resolveTelegramTarget {handle : String} {choice : ℕ}
    (hK : (linkingCustody d).Stable K) :
    (linkingCustody d).Keeps i op (AccountService.resolveTelegramTarget handle choice) K held
      (fun _ => K) fun _ => True := by
  unfold AccountService.resolveTelegramTarget
  dsimp only
  split
  · apply Custody.Upholds.pure
    exact fun _ ht => ⟨rfl, ht⟩
  · apply upholds_routine_then rfl hK
    intro node
    split
    · apply Custody.Upholds.pure
      exact fun _ ht => ⟨rfl, ht⟩
    · unfold AccountService.telegramUser
      apply upholds_routine_then rfl hK
      intro user
      apply Custody.Upholds.pure
      exact fun _ ht => ⟨rfl, ht⟩

/-- After a failed delivery. -/
theorem upholds_takeBack {code : String} {outcome : Outcome} (hheld : held.Issues code) :
    (linkingCustody d).Upholds i op (ask (.deleteBinding code outcome) >>= fun _ => pure false)
      (fun _ => True) held
      (fun _ _ held => held.Issues code) fun _ _ => True := by
  refine Custody.Keeps.andThen (F := fun _ => True)
    (keeps_deleteBinding (Custody.stable_const True)) ?_ fun _ _ => trivial
  intro _
  apply Custody.Upholds.pure
  exact fun _ _ => hheld

/-- The call still has the code to itself afterwards, or has delivered it. -/
theorem upholds_deliver {c : AccountService.Circumstances} {target : Target} {userId : String} :
    (linkingCustody d).Upholds i op (AccountService.deliver c target)
      (fun t => Issued t c.code userId "telegram") (.issuing c.code)
        (fun _ _ held => held.Issues c.code) fun _ _ => True := by
  unfold AccountService.deliver
  refine Custody.Keeps.andThen (F := fun _ => True) (keeps_setBinding (stable_issued _ _ _)) ?_
    fun _ _ => trivial
  intro bound
  split_ifs
  · apply Custody.Upholds.bind upholds_sendMessage
    intro sent held'
    apply Custody.Upholds.given fun _ hheld => hheld
    rintro rfl
    split_ifs
    · apply Custody.Upholds.pure
      exact fun _ _ => .inr rfl
    · refine (upholds_takeBack (.inr rfl)).knowing fun _ _ => trivial
  · refine (upholds_takeBack (.inl rfl)).knowing fun _ _ => trivial

theorem upholds_sendOtp {c : AccountService.Circumstances} {resolvedUserId handle userId : String} :
    (linkingCustody d).Upholds i op (AccountService.sendOtp c resolvedUserId handle)
      (fun t => Issued t c.code userId "telegram") (.issuing c.code)
        (fun _ _ held => held.Issues c.code) fun _ _ => True := by
  unfold AccountService.sendOtp
  refine Custody.Keeps.andThen (D := linkingCustody d)
    (keeps_resolveTelegramTarget (stable_issued _ _ _)) ?_ fun _ _ => trivial
  intro target
  split
  · apply Custody.Upholds.pure
    exact fun _ _ => .inl rfl
  · apply upholds_routine_then rfl (stable_issued _ _ _)
    intro owner
    apply Custody.Upholds.checkThen fun _ _ _ => trivial
    intro _
    refine Custody.Upholds.bind upholds_deliver ?_
    intro delivered held'
    apply Custody.Upholds.pure
    exact fun _ hheld => hheld

theorem keeps_savePending {c : AccountService.Circumstances} {resolvedUserId handle : String}
    {expiresAt : ℤ} :
    (linkingCustody d).Keeps i op (AccountService.savePending d c resolvedUserId handle expiresAt)
      (fun _ => True) held
      (fun _ _ => True) fun _ => True := by
  unfold AccountService.savePending
  dsimp only
  split_ifs
  · apply Custody.Upholds.pure
    exact fun _ _ => ⟨rfl, trivial⟩
  · apply upholds_routine_then rfl (Custody.stable_const True)
    intro user
    apply upholds_routine_then rfl (Custody.stable_const True)
    intro saved
    exact (Custody.Keeps.check fun _ _ _ => trivial).weaken (fun _ h => h)
      (fun _ _ _ h => ⟨h.1, trivial⟩) fun _ _ h => h

theorem upholds_returnCode {c : AccountService.Circumstances} {expiresAt : ℤ}
    (hheld : held.Issues c.code) :
    (linkingCustody d).Upholds i op (AccountService.returnCode c expiresAt) (fun _ => True) held
      (fun _ _ _ => True)
      fun _ _ => True := by
  unfold AccountService.returnCode
  refine Custody.Upholds.bind (upholds_disclose hheld) ?_
  intro _ held'
  apply Custody.Upholds.pure
  exact fun _ _ => trivial

theorem upholds_requestByHandle {c : AccountService.Circumstances}
    {resolvedUserId handle userId : String} {expiresAt : ℤ} :
    (linkingCustody d).Upholds i op
      (AccountService.requestByHandle d c resolvedUserId handle expiresAt)
        (fun t => Issued t c.code userId "telegram") (.issuing c.code) (fun _ _ _ => True)
          fun _ _ => True := by
  unfold AccountService.requestByHandle
  refine Custody.Upholds.bind (D := linkingCustody d) upholds_sendOtp ?_
  intro target held'
  apply Custody.Upholds.given fun _ hheld => hheld
  intro hheld
  cases target with
  | some target =>
    apply Custody.Upholds.pure
    exact fun _ _ => trivial
  | none =>
    refine Custody.Keeps.andThen (keeps_savePending.knowing fun _ _ => trivial) ?_
      fun _ _ => trivial
    intro _
    exact upholds_returnCode hheld

theorem upholds_requestLink {c : AccountService.Circumstances} {key platform : String}
    {handle : Option String} :
    (linkingCustody d).Upholds i op (AccountService.requestLink d c key platform handle)
      (fun _ => True) .nothing
      (fun _ _ _ => True) fun _ _ => True := by
  unfold AccountService.requestLink
  apply Custody.Upholds.checkThen fun _ _ _ => trivial
  intro _
  refine Custody.Keeps.andThen
    ((keeps_resolveOrCreateUser (Custody.stable_const True)).weaken (fun _ _ => trivial)
    (fun _ _ _ h => h) fun _ _ h => h) ?_ fun _ _ => trivial
  intro resolvedUserId
  apply upholds_routine_then rfl (Custody.stable_const True)
  intro now
  split_ifs
  · refine Custody.Keeps.andThen (F := fun _ => True)
      (keeps_supersede (Custody.stable_const True)) ?_ fun _ _ => trivial
    intro _
    refine Custody.Upholds.bind upholds_createCode ?_
    intro created held'
    apply Custody.Upholds.checkThen fun _ _ _ => trivial
    intro hcreated
    apply Custody.Upholds.given fun _ h => h.1
    rintro rfl
    rw [if_pos hcreated]
    split
    · next handle hhandle =>
      have htelegram : platform = "telegram" := by
        simpa using (Option.filter_eq_some_iff.mp hhandle).2
      subst htelegram
      exact upholds_requestByHandle.knowing fun _ h => h.2 hcreated
    · exact (upholds_returnCode (.inl rfl)).knowing fun _ _ => trivial
  · apply Custody.Upholds.checkThen fun _ _ _ => trivial
    intro _
    apply Custody.Upholds.pure
    exact fun _ _ => trivial

/-- A code links one identity, whose linking is justified; if it does not, the call still holds
it. -/
theorem upholds_syncSocialNode {link : Link} {username : Option String}
    {E : Tables → Holding → Prop} :
    (linkingCustody d).Upholds i op (IdentityService.syncSocialNode d link username)
      (fun t => Justified t link) (.redeeming link.code) (fun ok _ held => held = if ok then
        .nothing else .redeeming link.code) E := by
  unfold IdentityService.syncSocialNode
  apply upholds_routine_then rfl (stable_justified link)
  intro existing
  split_ifs
  · apply Custody.Upholds.pure
    exact fun _ _ => rfl
  · refine Custody.Upholds.bind upholds_upsertNode ?_
    intro _ held'
    apply Custody.Upholds.given fun _ hheld => hheld
    rintro rfl
    apply upholds_routine_then rfl (Custody.stable_const _)
    intro _
    apply Custody.Upholds.pure
    exact fun _ _ => rfl

theorem upholds_promoteWebPlaceholderUsername {userId : String} {username : Option String}
    {E : Tables → Holding → Prop} :
    (linkingCustody d).Upholds i op (IdentityService.promoteWebPlaceholderUsername userId username)
      (fun _ => True) held
      (fun _ _ _ => True) E := by
  unfold IdentityService.promoteWebPlaceholderUsername
  split
  · apply Custody.Upholds.pure
    exact fun _ _ => trivial
  · apply upholds_routine_then rfl (Custody.stable_const True)
    intro user
    split_ifs
    · refine Custody.Upholds.weaken
        (keeps_routine (E := fun _ => False) rfl (Custody.stable_const True)) (fun _ h => h)
        (fun _ _ _ _ => trivial) ?_
      exact fun _ _ hnever => hnever.2.elim
    · apply Custody.Upholds.pure
      exact fun _ _ => trivial

/-- An error leaves the claim with the call. -/
theorem upholds_linkAccount {link : Link} {username : Option String} :
    (linkingCustody d).Upholds i op (IdentityService.linkAccount d link username)
      (fun t => Justified t link) (.redeeming link.code) (fun _ _ _ => True)
        fun _ held => held = .redeeming link.code := by
  unfold IdentityService.linkAccount
  refine Custody.Upholds.checkThen (fun _ _ _ => rfl) ?_
  intro _
  apply upholds_routine_then rfl (stable_justified link)
  intro user
  refine Custody.Upholds.checkThen (fun _ _ _ => rfl) ?_
  intro _
  apply upholds_routine_then rfl (stable_justified link)
  intro existing
  cases existing with
  | some node =>
    dsimp only
    split_ifs
    · apply Custody.Upholds.pure
      exact fun _ _ => trivial
    · exact Custody.Upholds.checked (fun _ _ h _ => nomatch h) fun _ _ _ _ => rfl
  | none =>
    refine Custody.Upholds.bind upholds_syncSocialNode ?_
    intro ok held'
    apply Custody.Upholds.given fun _ hheld => hheld
    rintro rfl
    cases ok with
    | false => exact Custody.Upholds.checkThen (fun _ _ _ => rfl) fun hnever => nomatch hnever
    | true =>
      refine Custody.Upholds.checkThen (fun hnever => absurd rfl hnever) ?_
      intro _
      refine Custody.Upholds.bind
        (upholds_promoteWebPlaceholderUsername.knowing fun _ _ => trivial) ?_
      intro _ held'
      apply Custody.Upholds.pure
      exact fun _ _ => trivial

/-- The code of the link is used up, or free again. -/
theorem upholds_linkOrRelease {link : Link} {username : Option String} :
    (linkingCustody d).Upholds i op
      (onFailure (IdentityService.linkAccount d link username) (ask (.releaseCode link.code)))
        (fun t => Justified t link) (.redeeming link.code) (fun _ _ _ => True) fun _ _ => True := by
  apply Custody.Upholds.onFailure upholds_linkAccount
  intro held'
  apply Custody.Upholds.given fun _ hheld => hheld
  rintro rfl
  exact upholds_releaseCode.weaken (fun _ _ => trivial) (fun _ _ _ _ => trivial) fun _ _ h => h

/-- What was claimed is linked with the code's own account. -/
theorem upholds_verifyCode {newId key platform code : String} {username : Option String}
    {reads deletes : Outcome} :
    (linkingCustody d).Upholds i op
      (AccountService.verifyCode d newId key platform code username reads deletes)
        (fun _ => True) .nothing (fun _ _ _ => True) fun _ _ => True := by
  unfold AccountService.verifyCode
  apply Custody.Upholds.checkThen fun _ _ _ => trivial
  intro _
  refine Custody.Keeps.andThen (F := fun _ => True) keeps_getBinding ?_ fun _ _ => trivial
  intro found
  refine Custody.Upholds.bind (S := fun target t held => held = .nothing ∧
    (trim code, target.platformUserId) ∈ t.history.read)
    (Custody.Upholds.checked ?_ fun _ _ _ _ => trivial) ?_
  · intro target t hfound hread
    exact ⟨rfl, hread target
      (Option.filter_eq_some_iff.mp (CheckedOutcome.orError_eq_ok.mp hfound)).1⟩
  intro target held'
  apply Custody.Upholds.assuming
  rintro rfl
  have hread := stable_read (d := d) (trim code, target.platformUserId)
  apply upholds_routine_then rfl hread
  intro now
  refine Custody.Upholds.bind (upholds_claimCode hread) ?_
  intro claimed held'
  apply Custody.Upholds.assuming
  rintro rfl
  apply Custody.Upholds.checkThen fun _ _ _ => trivial
  intro hone
  rw [if_pos hone]
  have hstable : (linkingCustody d).Stable fun t =>
      (∃ userId, Issued t (trim code) userId platform) ∧
      (trim code, target.platformUserId) ∈ t.history.read := by
    apply Custody.Stable.and _ hread
    rintro t t' hfollows ⟨userId, hissued⟩
    exact ⟨userId, hfollows.issued _ _ _ hissued⟩
  refine Custody.Upholds.knowing
    (Custody.Keeps.andThen (F := fun _ => True) (keeps_findCode hstable fun t ht => ht.1) ?_ ?_)
    fun t ht => ⟨(ht.1 hone).1, ht.2⟩
  rotate_left
  · exact fun _ _ => trivial
  intro found
  refine Custody.Upholds.bind (S := fun record t held => held = .redeeming (trim code) ∧
      (Issued t (trim code) record.userId platform ∧
        (trim code, target.platformUserId) ∈ t.history.read))
    (Custody.Upholds.checked ?_ fun _ _ _ _ => trivial) ?_
  · intro record t hfound ht
    exact ⟨rfl, ht.1 record (CheckedOutcome.orError_eq_ok.mp hfound), ht.2.2⟩
  intro record held'
  apply Custody.Upholds.assuming
  rintro rfl
  have hrecord :=
    Custody.Stable.and (stable_issued (d := d) (trim code) record.userId platform) hread
  refine Custody.Keeps.andThen (keeps_resolveOrCreateUser hrecord) ?_ fun _ _ => trivial
  intro resolvedUserId
  apply Custody.Upholds.checkThen fun _ _ _ => trivial
  rintro rfl
  refine Custody.Upholds.bind (S := fun _ _ _ => True)
    (Custody.Upholds.knowing upholds_linkOrRelease ?_) ?_
  · exact fun t ht => ⟨ht.1, rfl, ht.2⟩
  intro _ held'
  refine Custody.Keeps.andThen (F := fun _ => True)
    (keeps_deleteBinding (Custody.stable_const True)) ?_ fun _ _ => trivial
  intro _
  exact (keeps_routine (E := fun _ => True) rfl (Custody.stable_const True)).weaken (fun _ h => h)
    (fun _ _ _ _ => trivial)
    fun _ _ _ => trivial

theorem upholds_handleVerifyAction {platform platformId username code : String} :
    (linkingCustody d).Upholds i op
      (PlatformService.handleVerifyAction d platform platformId username code)
        (fun _ => True) .nothing (fun _ _ _ => True) fun _ _ => True := by
  unfold PlatformService.handleVerifyAction
  split
  · apply Custody.Upholds.pure
    exact fun _ _ => trivial
  apply upholds_routine_then rfl (Custody.stable_const True)
  intro now
  refine Custody.Upholds.bind (upholds_claimCode (Custody.stable_const True)) ?_
  intro claimed held'
  apply Custody.Upholds.assuming
  rintro rfl
  split
  · apply Custody.Upholds.pure
    exact fun _ _ => trivial
  next hclaimed =>
    have hone : claimed = 1 := not_not.mp hclaimed
    rw [if_pos hone]
    have hstable : (linkingCustody d).Stable fun t =>
        (∃ userId, Issued t (trim code) userId platform) ∧
        (trim code, platform, platformId) ∈ t.history.sent := by
      apply Custody.Stable.and _ (stable_sent _)
      rintro t t' hfollows ⟨userId, hissued⟩
      exact ⟨userId, hfollows.issued _ _ _ hissued⟩
    refine Custody.Upholds.knowing
      (Custody.Keeps.andThen (F := fun _ => True) (keeps_findCode hstable fun t ht => ht.1) ?_ ?_)
      fun t ht => ⟨(ht.1 hone).1, (ht.1 hone).2 rfl⟩
    rotate_left
    · exact fun _ _ => trivial
    intro found
    cases found with
    | none =>
      apply Custody.Upholds.pure
      exact fun _ _ => trivial
    | some record =>
      unfold PlatformService.redeem
      refine Custody.Upholds.bind (S := fun _ _ _ => True)
        (Custody.Upholds.knowing upholds_linkOrRelease ?_) ?_
      · exact fun t ht => ⟨ht.1 record rfl, ht.2.2⟩
      intro _ held'
      apply Custody.Upholds.pure
      exact fun _ _ => trivial

end Walks

section Results

variable {d : Setting} {start : Tables} {tr : Trace Tables Operation Request Answer}
  {c : Config Tables Operation Request Answer}

/-- Either the chat account has sent the code itself, or the code was delivered to its chat and to
nobody else and was entered in the session of the account that it was issued for. -/
def LinkedByOwner (t : Tables) (link : Link) : Prop :=
  Issued t link.code link.userId link.platform ∧
    match link.via with
    | .chat => (link.code, link.platform, link.platformUserId) ∈ t.history.sent
    | .web userId =>
      userId = link.userId ∧ link.platform = "telegram" ∧
      (link.code, link.platformUserId) ∈ t.history.delivered ∧
        (∀ entry ∈ t.history.delivered, entry.1 = link.code → entry.2 = link.platformUserId) ∧
        link.code ∉ t.history.disclosed

/-- Where the node of an identity comes from. -/
def NodesLinked (d : Setting) (start t : Tables) : Prop :=
  ∀ node ∈ t.nodes.rows, (∃ old ∈ start.nodes.rows, nodeKey old = nodeKey node ∧
    old.userId = node.userId) ∨
    ∃ link ∈ t.history.links, nodeKey node = (d.toLowerCase link.platform, link.platformUserId) ∧
    node.userId = link.userId

/-- Every identity that is linked was so from the start, or was linked by its owner; and a code
links one identity. -/
structure OwnersOnly (d : Setting) (start t : Tables) : Prop where
  nodes : NodesLinked d start t
  owners : ∀ link ∈ t.history.links, LinkedByOwner t link
  once : (t.history.links.map Link.code).Nodup

def noHistory : History := ⟨[], [], [], [], []⟩

theorem redeemed_of_noHistory (h : start.history = noHistory) :
    Redeemed start fun _ => .nothing := by
  constructor
  · rintro i code (⟨⟨⟩⟩ | ⟨⟨⟩⟩)
  · rintro i j code (⟨⟨⟩⟩ | ⟨⟨⟩⟩)
  · rintro i code ⟨⟩
  · rintro i j code ⟨⟩
  all_goals
    rw [h]
    simp [noHistory]

theorem linkingCustody_kept : (linkingCustody d).Kept where
  refl := Follows.refl
  programs i op _ := by
    cases op with
    | requestLink c key platform handle => exact Custody.Upholds.dropResult upholds_requestLink
    | verifyCode newId key platform code username reads deletes =>
      exact Custody.Upholds.dropResult upholds_verifyCode
    | verifyByChat platform platformId username code =>
      exact Custody.Upholds.dropResult upholds_handleVerifyAction
  passes n t H hinv _ := by
    have hinv : Redeemed t H := hinv
    refine ⟨.same rfl rfl rfl, hinv.issuers, hinv.issuer, hinv.redeemers, hinv.redeemer,
      hinv.delivered, hinv.once, ?_, hinv.read,
      hinv.linked, hinv.single⟩
    intro code hcode
    obtain ⟨hrow, hunbound, hunread⟩ := hinv.disclosed code hcode
    refine ⟨hrow, ?_, hunread⟩
    have hexpired : ∀ entry ∈ t.bindings code, ¬t.now < entry.2 := by
      simpa [Tables.binding, Option.filter_eq_none_iff] using hunbound
    have hlater : ∀ entry ∈ t.bindings code, ¬t.now + (n : ℤ) < entry.2 := by
      intro entry hentry
      have hentry' := hexpired entry hentry
      omega
    show ((t.bindings code).filter fun entry => t.now + (n : ℤ) < entry.2).map Prod.fst = none
    rw [Option.map_eq_none_iff, Option.filter_eq_none_iff]
    intro entry hentry
    simpa using hlater entry hentry

theorem Redeemed.owner {t : Tables} {H : ℕ → Holding} (h : Redeemed t H) {link : Link}
    (hlink : link ∈ t.history.links) :
    LinkedByOwner t link := by
  obtain ⟨-, hissued, hvia⟩ := h.linked link hlink
  refine ⟨hissued, ?_⟩
  cases hvia' : link.via with
  | chat =>
    rw [hvia'] at hvia
    exact hvia
  | web userId =>
    rw [hvia'] at hvia
    obtain ⟨huser, hread⟩ := hvia
    have hdelivered := h.read _ hread
    obtain ⟨userId', htelegram⟩ := h.delivered _ hdelivered
    refine ⟨huser, (hissued.unique htelegram).2, hdelivered, ?_, ?_⟩
    · intro entry hentry hcode
      rw [h.once entry hentry _ hdelivered hcode]
    · intro hdisclosed
      exact (h.disclosed _ hdisclosed).2.2 _ hread rfl

/-- A node comes from a link. -/
theorem mem_upsertNode {t : Tables} {link : Link} {platform : String} {username : Option String}
    {node : SocialNode} (h : node ∈ (t.upsertNode link platform username).rows) :
    node ∈ t.nodes.rows ∨ nodeKey node = (platform, link.platformUserId) ∧
    node.userId = link.userId := by
  unfold Tables.upsertNode at h
  split at h
  next nodes hinsert =>
    rcases (Keyed.mem_insert hinsert).mp h with hold | rfl
    · exact .inl hold
    · exact .inr ⟨rfl, rfl⟩
  next =>
    rcases Keyed.of_mem_update _ h with ⟨hold, -⟩ | ⟨old, -, hkey, rfl⟩
    · exact .inl hold
    · exact .inr ⟨of_decide_eq_true hkey, rfl⟩

/-- Only a link changes nodes. -/
theorem carry_nodes {r : Request} (hr : ∀ link username, r ≠ .upsertNode link username)
    (t : Tables) :
    (carry d t r).2.nodes = t.nodes ∧ (carry d t r).2.history.links = t.history.links := by
  cases r with
  | upsertNode link username => exact absurd rfl (hr link username)
  | createAccount id address =>
    simp only [carry]
    split <;> exact ⟨rfl, rfl⟩
  | createCode row =>
    simp only [carry]
    split <;> exact ⟨rfl, rfl⟩
  | setBinding code target ttl outcome =>
    simp only [carry]
    split <;> exact ⟨rfl, rfl⟩
  | sendMessage code platformUserId outcome =>
    simp only [carry]
    split <;> exact ⟨rfl, rfl⟩
  | deleteBinding code outcome =>
    simp only [carry]
    split <;> exact ⟨rfl, rfl⟩
  | setColumn userId platform platformUserId =>
    simp only [carry]
    split
    · split <;> exact ⟨rfl, rfl⟩
    · exact ⟨rfl, rfl⟩
  | renameUser userId username =>
    simp only [carry]
    split <;> exact ⟨rfl, rfl⟩
  | _ => exact ⟨rfl, rfl⟩

theorem NodesLinked.carry {t : Tables} (h : NodesLinked d start t) (r : Request) :
    NodesLinked d start (carry d t r).2 := by
  by_cases hr : ∀ link username, r ≠ .upsertNode link username
  · obtain ⟨hnodes, hlinks⟩ := carry_nodes (d := d) hr t
    rw [NodesLinked, hnodes, hlinks]
    exact h
  · push Not at hr
    obtain ⟨link, username, rfl⟩ := hr
    intro node hnode
    rcases mem_upsertNode hnode with hold | ⟨hkey, huser⟩
    · refine (h node hold).imp id ?_
      rintro ⟨old, hlink, hrest⟩
      exact ⟨old, List.mem_cons_of_mem _ hlink, hrest⟩
    · exact .inr ⟨link, List.mem_cons_self, hkey, huser⟩

/-- In every interleaving in which a code is read only after its delivery, and returned to the web
only when nothing is left of one, identities are linked by their owners. -/
theorem identities_linked_by_owners (hrun : (linkingService d).Runs start tr c)
    (hstart : start.history = noHistory) (hmeets : ∀ t ∈ tr, StoreService.Meets deliveriesKept t) :
    OwnersOnly d start c.state := by
  obtain ⟨H, hredeemed⟩ := linkingCustody_kept.run hrun hmeets (redeemed_of_noHistory hstart)
  have hnodes : NodesLinked d start c.state := by
    apply StoreService.invariant_of_run hrun hmeets
    · exact fun node hnode => .inl ⟨node, hnode, rfl, rfl⟩
    · exact fun _ _ _ r ht _ => ht.carry r
    · exact fun _ _ ht _ => ht
  exact ⟨hnodes, fun _ hlink => hredeemed.owner hlink, hredeemed.single⟩

end Results

end VeriAgentPay.AccountLinking

namespace VeriAgentPay.Devnet
open InterleavedPrograms KeyedTables AccountLinking
open AccountLinking.AccountService (Circumstances)

/-- Vera was onboarded in Telegram, where she has no node yet; she and Mallory have accounts on the
web. -/
def linkAccounts : AccountLinking.Tables where
  codes := .empty
  nodes := .empty
  users := [{ Identity.blankUser "mallory" with username := some "mallory" },
    { Identity.blankUser "vera-web" with username := some "vera" },
    { Identity.blankUser "vera" with username := some "vera_k", telegramId := some "777001" }]
  bindings _ := none
  now := 1750000000000
  history := noHistory

/-- An account on the web asks for a code for Vera's handle. -/
def asksForVera (key : String) (sends deletes : AccountLinking.Outcome) :
    AccountLinking.Operation :=
  .requestLink ⟨"110998", "new", none, true, 0, .answered, sends, deletes, .answered⟩ key "telegram"
    (some "@vera_k")

def entersCode (key : String) : AccountLinking.Operation :=
  .verifyCode "new" key "telegram" "110998" none .answered .answered

def linkCall (i n : ℕ) (op : AccountLinking.Operation) : List (Move AccountLinking.Operation) :=
  .start i op :: List.replicate n (.step i)

/-- Of each link by a web caller, whether its code was delivered and whether it was returned. -/
def webLinksAfter (schedule : List (Move AccountLinking.Operation)) : Option (List (Bool × Bool)) :=
  ((linkingService accounts).moves StoreService.anything (Config.initial linkAccounts) schedule).map
    fun c =>
    (c.state.history.links.filter (·.via ≠ .chat)).map fun link =>
      (decide ((link.code, link.platformUserId) ∈ c.state.history.delivered),
        decide (link.code ∈ c.state.history.disclosed))

/-- The message was refused, or its answer was lost; and the binding stays. -/
def failedDelivery (sends : AccountLinking.Outcome) : List (Move AccountLinking.Operation) :=
  linkCall 0 13 (asksForVera "mallory" sends .refused) ++ linkCall 1 12 (entersCode "mallory")

/-- The code is guessed before the message is sent. -/
def guessedCode : List (Move AccountLinking.Operation) :=
  linkCall 0 8 (asksForVera "mallory" .answered .answered) ++ linkCall 1 12 (entersCode "mallory")

theorem webLinks_computed : webLinksAfter (failedDelivery .refused) = some [(false, true)] ∧
    webLinksAfter (failedDelivery .lost) = some [(true, true)] ∧
    webLinksAfter guessedCode = some [(false, false)] := by
  decide +kernel

/-- After the schedule a chat is linked that its owner has not linked. -/
def LinkedByAnother (schedule : List (Move AccountLinking.Operation)) : Prop :=
  ∃ tr c, (linkingService accounts).Runs linkAccounts tr c ∧
    (linkingService accounts).moves StoreService.anything
      (Config.initial linkAccounts) schedule = some c ∧
    linkAccounts.history = noHistory ∧ ¬OwnersOnly accounts linkAccounts c.state

theorem linkedByAnother_of_computed {schedule : List (Move AccountLinking.Operation)}
    {delivered disclosed : Bool} (h : webLinksAfter schedule = some [(delivered, disclosed)])
    (hwrong : delivered = false ∨ disclosed = true) :
    LinkedByAnother schedule := by
  obtain ⟨tr, c, hrun, -, hmoves, hfacts⟩ := StoreService.runs_of_computed h
  refine ⟨tr, c, hrun, hmoves, rfl, ?_⟩
  intro howners
  obtain ⟨link, hlink, hflags⟩ :=
    List.mem_map.mp (hfacts ▸ List.mem_singleton_self (delivered, disclosed))
  obtain ⟨hmem, hweb⟩ := List.mem_filter.mp hlink
  obtain ⟨-, howner⟩ := howners.owners link hmem
  simp only [Prod.mk.injEq] at hflags
  cases hvia : link.via with
  | chat => simp [hvia] at hweb
  | web userId =>
    rw [hvia] at howner
    obtain ⟨-, -, hdelivered, -, hundisclosed⟩ := howner
    rcases hwrong with rfl | rfl
    · exact of_decide_eq_false hflags.1 hdelivered
    · exact hundisclosed (of_decide_eq_true hflags.2)

/-- Mallory links Vera's chat with a code that Vera's chat did not get, or that Mallory got as
well. -/
theorem chat_linked_by_another :
    LinkedByAnother (failedDelivery .refused) ∧ LinkedByAnother (failedDelivery .lost) ∧
    LinkedByAnother guessedCode := by
  obtain ⟨hrefused, hlost, hguessed⟩ := webLinks_computed
  refine ⟨?_, ?_, ?_⟩
  · exact linkedByAnother_of_computed hrefused (.inl rfl)
  · exact linkedByAnother_of_computed hlost (.inr rfl)
  · exact linkedByAnother_of_computed hguessed (.inl rfl)

instance : DecidablePred deliveriesKept.starts := fun _ => inferInstanceAs (Decidable True)
instance (i : ℕ) (op : AccountLinking.Operation) (t : AccountLinking.Tables)
    (r : AccountLinking.Request) :
    Decidable (deliveriesKept.allows i op t r) := by
  cases r with
  | getBinding code outcome =>
    exact inferInstanceAs (Decidable (outcome = .answered → ReadsDelivered t code))
  | disclose code => exact inferInstanceAs (Decidable (DisclosesUnbound t code))
  | _ => exact .isTrue trivial
instance (t t' : AccountLinking.Tables) : Decidable (deliveriesKept.passes t t') := .isTrue trivial

/-- Vera asks for a code from her own account on the web, gets it in Telegram and enters it. -/
def codeEntered : List (Move AccountLinking.Operation) :=
  linkCall 0 9 (asksForVera "vera-web" .answered .answered) ++ linkCall 1 12 (entersCode "vera-web")

theorem code_entered :
    ((linkingService accounts).moves deliveriesKept (Config.initial linkAccounts) codeEntered).map
      (fun c =>
    c.state.history.links) = some
      [⟨"110998", "telegram", "777001", "vera-web", .web "vera-web"⟩] := by
  decide +kernel

theorem identities_linked_by_owners_devnet :
    ∃ tr c, (linkingService accounts).Runs linkAccounts tr c ∧
    OwnersOnly accounts linkAccounts c.state ∧
    c.state.history.links = [⟨"110998", "telegram", "777001", "vera-web", .web "vera-web"⟩] := by
  obtain ⟨tr, c, hrun, hmeets, -, hlinks⟩ := StoreService.runs_of_computed code_entered
  exact ⟨tr, c, hrun, identities_linked_by_owners hrun rfl hmeets, hlinks⟩

end VeriAgentPay.Devnet
