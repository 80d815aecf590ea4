import VeriAgentPay.AccountLinking

/-!
# Who links a chat account

A chat account is linked by whoever redeems a code: the chat itself, or the account that the code
was issued for, after it was delivered to the chat. When the second holds although deliveries fail,
and that a code links one identity.
-/

namespace VeriAgentPay.AccountLinking
open InterleavedPrograms KeyedTables
open Backend (trim truthy)
open Identity (SocialNode Setting isNumeric)

section Redemption

/-- A binding is read when its code was delivered to the chat. -/
def ReadsDelivered (t : Tables) (code : String) : Prop :=
  ∀ target ∈ t.binding code, (code, target.platformUserId) ∈ t.history.delivered

/-- A code is returned to a web caller when nothing is left, and nothing was read, of its
delivery. -/
def DisclosesUnbound (t : Tables) (code : String) : Prop :=
  t.binding code = none ∧ ∀ entry ∈ t.history.read, entry.1 ≠ code

instance (t : Tables) (code : String) : Decidable (ReadsDelivered t code) :=
  inferInstanceAs (Decidable (∀ target ∈ t.binding code, _))
instance (t : Tables) (code : String) : Decidable (DisclosesUnbound t code) :=
  inferInstanceAs (Decidable (_ ∧ ∀ entry ∈ t.history.read, _))

def deliveriesKept : StoreService.Conditions Tables Operation Request where
  starts _ := True
  allows _ _ t
    | .getBinding code outcome => outcome = .answered → ReadsDelivered t code
    | .disclose code => DisclosesUnbound t code
    | _ => True
  passes _ _ := True

/-- What a call holds: the code that it has created and not given away, or one that it has claimed
and not used. -/
inductive Holding where
  | nothing
  | issuing (code : String)
  | delivering (code : String)
  | redeeming (code : String)

def Holding.Issues (h : Holding) (code : String) : Prop := h = issuing code ∨ h = delivering code

/-- The code was issued for the account and the platform. -/
def Issued (t : Tables) (code userId platform : String) : Prop :=
  ∃ row ∈ t.codes.rows, row.code = code ∧ row.userId = userId ∧ row.platform = platform

def Used (t : Tables) (code : String) : Prop :=
  ∃ row ∈ t.codes.rows, row.code = code ∧ row.usedAt ≠ none

/-- How the code came to the one who redeemed it. -/
def Justified (t : Tables) (link : Link) : Prop :=
  Issued t link.code link.userId link.platform ∧
    match link.via with
    | .chat => (link.code, link.platform, link.platformUserId) ∈ t.history.sent
    | .web userId => userId = link.userId ∧ (link.code, link.platformUserId) ∈ t.history.read

/-- The invariant. -/
structure Redeemed (t : Tables) (H : ℕ → Holding) : Prop where
  issuers : ∀ i code, (H i).Issues code → code ∉ t.history.disclosed ∧
    (∃ row ∈ t.codes.rows, row.code = code) ∧
    (H i = .issuing code → ∀ entry ∈ t.history.delivered, entry.1 ≠ code)
  issuer : ∀ i j code, (H i).Issues code → (H j).Issues code → i = j
  redeemers : ∀ i code, H i = .redeeming code → Used t code ∧
    ∀ link ∈ t.history.links, link.code ≠ code
  redeemer : ∀ i j code, H i = .redeeming code → H j = .redeeming code → i = j
  delivered : ∀ entry ∈ t.history.delivered, ∃ userId, Issued t entry.1 userId "telegram"
  once : ∀ entry ∈ t.history.delivered, ∀ entry' ∈ t.history.delivered, entry.1 = entry'.1 →
    entry = entry'
  disclosed : ∀ code ∈ t.history.disclosed, (∃ row ∈ t.codes.rows, row.code = code) ∧
    DisclosesUnbound t code
  read : ∀ entry ∈ t.history.read, entry ∈ t.history.delivered
  linked : ∀ link ∈ t.history.links, Used t link.code ∧ Justified t link
  single : (t.history.links.map Link.code).Nodup

/-- Codes stay issued, and the history grows. -/
structure Follows (t t' : Tables) : Prop where
  issued : ∀ code userId platform, Issued t code userId platform → Issued t' code userId platform
  sent : ∀ entry ∈ t.history.sent, entry ∈ t'.history.sent
  read : ∀ entry ∈ t.history.read, entry ∈ t'.history.read

def linkingCustody (d : Setting) : Custody Tables Operation Request Answer Holding where
  service := linkingService d
  conditions := deliveriesKept
  inv := Redeemed
  grows := Follows
  idle := .nothing

variable {d : Setting} {i : ℕ} {op : Operation} {t t' : Tables} {H : ℕ → Holding}

theorem Follows.refl (t : Tables) : Follows t t := ⟨fun _ _ _ h => h, fun _ h => h, fun _ h => h⟩

theorem Follows.same (hcodes : t'.codes = t.codes) (hsent : t'.history.sent = t.history.sent)
    (hread : t'.history.read = t.history.read) : Follows t t' := by
  constructor
  · intro code userId platform hissued
    rw [Issued, hcodes]
    exact hissued
  · intro entry hentry
    rw [hsent]
    exact hentry
  · intro entry hentry
    rw [hread]
    exact hentry

theorem Justified.later {link : Link} (h : Justified t link) (hfollows : Follows t t') :
    Justified t' link := by
  obtain ⟨hissued, hvia⟩ := h
  refine ⟨hfollows.issued _ _ _ hissued, ?_⟩
  cases hlink : link.via with
  | chat =>
    simp only [hlink] at hvia
    exact hfollows.sent _ hvia
  | web userId =>
    simp only [hlink] at hvia
    exact ⟨hvia.1, hfollows.read _ hvia.2⟩

section Steps

/-- The rows of codes change, and nothing that is used comes free; a chat may have sent a code. -/
theorem Redeemed.of_codes (h : Redeemed t H)
    (hissued : ∀ code userId platform, Issued t code userId platform →
      Issued t' code userId platform)
    (hused : ∀ code, Used t code → ((∃ link ∈ t.history.links, link.code = code) ∨
      ∃ j, H j = .redeeming code) → Used t' code)
    (hbindings : t'.bindings = t.bindings) (hnow : t'.now = t.now)
    (hhistory : t'.history = { t.history with sent := t'.history.sent })
    (hsent : ∀ entry ∈ t.history.sent, entry ∈ t'.history.sent) :
    Follows t t' ∧ Redeemed t' H := by
  have hread : t'.history.read = t.history.read := by rw [hhistory]
  have hdelivered : t'.history.delivered = t.history.delivered := by rw [hhistory]
  have hdisclosed : t'.history.disclosed = t.history.disclosed := by rw [hhistory]
  have hlinks : t'.history.links = t.history.links := by rw [hhistory]
  have hfollows : Follows t t' := ⟨hissued, hsent, fun _ h => hread ▸ h⟩
  have hrow : ∀ code, (∃ row ∈ t.codes.rows, row.code = code) →
      ∃ row ∈ t'.codes.rows, row.code = code := by
    rintro code ⟨row, hrow, rfl⟩
    obtain ⟨row', hrow', hcode, -⟩ :=
      hissued row.code row.userId row.platform ⟨row, hrow, rfl, rfl, rfl⟩
    exact ⟨row', hrow', hcode⟩
  refine ⟨hfollows, ?_⟩
  constructor
  · rw [hdelivered, hdisclosed]
    intro j code hj
    obtain ⟨hundisclosed, hexists, hundelivered⟩ := h.issuers j code hj
    exact ⟨hundisclosed, hrow code hexists, hundelivered⟩
  · exact h.issuer
  · rw [hlinks]
    intro j code hj
    obtain ⟨hclaimed, hunlinked⟩ := h.redeemers j code hj
    exact ⟨hused code hclaimed (.inr ⟨j, hj⟩), hunlinked⟩
  · exact h.redeemer
  · rw [hdelivered]
    intro entry hentry
    obtain ⟨userId, hentry⟩ := h.delivered entry hentry
    exact ⟨userId, hissued _ _ _ hentry⟩
  · rw [hdelivered]
    exact h.once
  · rw [hdisclosed]
    intro code hcode
    obtain ⟨hexists, hunbound, hunread⟩ := h.disclosed code hcode
    refine ⟨hrow code hexists, ?_, ?_⟩
    · rw [Tables.binding, hbindings, hnow]
      exact hunbound
    · rw [hread]
      exact hunread
  · rw [hread, hdelivered]
    exact h.read
  · rw [hlinks]
    intro link hlink
    obtain ⟨hclaimed, hjustified⟩ := h.linked link hlink
    exact ⟨hused link.code hclaimed (.inl ⟨link, hlink, rfl⟩), hjustified.later hfollows⟩
  · rw [hlinks]
    exact h.single

/-- A request that leaves codes, bindings and history alone. -/
theorem Redeemed.frame (h : Redeemed t H) (hcodes : t'.codes = t.codes)
    (hbindings : t'.bindings = t.bindings) (hnow : t'.now = t.now)
    (hhistory : t'.history = t.history) : Follows t t' ∧ Redeemed t' H := by
  apply h.of_codes _ _ hbindings hnow
  · rw [hhistory]
  · intro entry hentry
    rw [hhistory]
    exact hentry
  · intro code userId platform hissued
    rw [Issued, hcodes]
    exact hissued
  · intro code hused _
    rw [Used, hcodes]
    exact hused

/-- What one call holds changes. -/
theorem Redeemed.hold (h : Redeemed t H) {i : ℕ} {held : Holding}
    (hissues : ∀ code, held.Issues code → code ∉ t.history.disclosed ∧
      (∃ row ∈ t.codes.rows, row.code = code) ∧
      (held = .issuing code → ∀ entry ∈ t.history.delivered, entry.1 ≠ code) ∧
      ∀ j ≠ i, ¬(H j).Issues code)
    (hredeems : ∀ code, held = .redeeming code → Used t code ∧
      (∀ link ∈ t.history.links, link.code ≠ code) ∧
      ∀ j ≠ i, H j ≠ .redeeming code) : Redeemed t (Function.update H i held) := by
  refine ⟨?_, ?_, ?_, ?_, h.delivered, h.once, h.disclosed, h.read, h.linked, h.single⟩
  · intro j code hj
    by_cases hij : j = i
    · subst hij
      rw [Function.update_self] at hj ⊢
      obtain ⟨hundisclosed, hrow, hundelivered, -⟩ := hissues code hj
      exact ⟨hundisclosed, hrow, hundelivered⟩
    · rw [Function.update_of_ne hij] at hj ⊢
      exact h.issuers j code hj
  · intro j k code hj hk
    by_cases hij : j = i
    · subst hij
      by_cases hik : k = j
      · exact hik.symm
      · rw [Function.update_self] at hj
        rw [Function.update_of_ne hik] at hk
        exact absurd hk ((hissues code hj).2.2.2 k hik)
    · rw [Function.update_of_ne hij] at hj
      by_cases hik : k = i
      · subst hik
        rw [Function.update_self] at hk
        exact absurd hj ((hissues code hk).2.2.2 j hij)
      · rw [Function.update_of_ne hik] at hk
        exact h.issuer j k code hj hk
  · intro j code hj
    by_cases hij : j = i
    · subst hij
      rw [Function.update_self] at hj
      exact ⟨(hredeems code hj).1, (hredeems code hj).2.1⟩
    · rw [Function.update_of_ne hij] at hj
      exact h.redeemers j code hj
  · intro j k code hj hk
    by_cases hij : j = i
    · subst hij
      by_cases hik : k = j
      · exact hik.symm
      · rw [Function.update_self] at hj
        rw [Function.update_of_ne hik] at hk
        exact absurd hk ((hredeems code hj).2.2 k hik)
    · rw [Function.update_of_ne hij] at hj
      by_cases hik : k = i
      · subst hik
        rw [Function.update_self] at hk
        exact absurd hj ((hredeems code hk).2.2 j hij)
      · rw [Function.update_of_ne hik] at hk
        exact h.redeemer j k code hj hk

/-- A call gives away what it holds. -/
theorem Redeemed.drop (h : Redeemed t H) (i : ℕ) : Redeemed t (Function.update H i .nothing) := by
  apply h.hold
  · rintro code (hissuing | hdelivering)
    · cases hissuing
    · cases hdelivering
  · rintro code ⟨⟩

theorem issues_update_nothing {code : String} (h : (H i).Issues code)
    (hissuer : Redeemed t H) (j : ℕ) :
    ¬(Function.update H i Holding.nothing j).Issues code := by
  intro hj
  by_cases hij : j = i
  · subst hij
    rw [Function.update_self] at hj
    rcases hj with hj | hj
    · cases hj
    · cases hj
  · rw [Function.update_of_ne hij] at hj
    exact hij (hissuer.issuer j i code hj h)

theorem redeeming_update_nothing {code : String} (h : H i = .redeeming code)
    (hredeemer : Redeemed t H) (j : ℕ) :
    Function.update H i Holding.nothing j ≠ .redeeming code := by
  intro hj
  by_cases hij : j = i
  · subst hij
    rw [Function.update_self] at hj
    cases hj
  · rw [Function.update_of_ne hij] at hj
    exact hij (hredeemer.redeemer j i code hj h)

/-- A binding is set or deleted, of a code that was not returned or to none. -/
theorem Redeemed.bindings (h : Redeemed t H) {code : String} {entry : Option (Target × ℤ)}
    (hclosed : code ∈ t.history.disclosed → entry = none) :
    Redeemed { t with bindings := Function.update t.bindings code entry } H := by
  refine ⟨h.issuers, h.issuer, h.redeemers, h.redeemer, h.delivered, h.once, ?_, h.read,
    h.linked, h.single⟩
  intro other hother
  obtain ⟨hexists, hunbound, hunread⟩ := h.disclosed other hother
  refine ⟨hexists, ?_, hunread⟩
  by_cases hsame : other = code
  · subst hsame
    simp [Tables.binding, hclosed hother]
  · simpa [Tables.binding, hsame] using hunbound

/-- A code is delivered for the first time. -/
theorem Redeemed.deliver (h : Redeemed t H) {code userId : String}
    (hundelivered : ∀ entry ∈ t.history.delivered, entry.1 ≠ code)
    (hnobody : ∀ j, H j ≠ .issuing code) (hissued : Issued t code userId "telegram")
    (platformUserId : String) :
    Redeemed { t with
      history := { t.history with
        delivered := (code, platformUserId) :: t.history.delivered } } H := by
  refine ⟨?_, h.issuer, h.redeemers, h.redeemer, ?_, ?_, h.disclosed, ?_, h.linked, h.single⟩
  · intro j other hj
    obtain ⟨hundisclosed, hrow, hother⟩ := h.issuers j other hj
    refine ⟨hundisclosed, hrow, ?_⟩
    intro hissuing entry hentry
    rcases List.mem_cons.mp hentry with rfl | hentry
    · rintro rfl
      exact hnobody j hissuing
    · exact hother hissuing entry hentry
  · intro entry hentry
    rcases List.mem_cons.mp hentry with rfl | hentry
    · exact ⟨userId, hissued⟩
    · exact h.delivered entry hentry
  · intro entry hentry entry' hentry' hsame
    rcases List.mem_cons.mp hentry with rfl | hentry
    · rcases List.mem_cons.mp hentry' with rfl | hentry'
      · rfl
      · exact absurd hsame.symm (hundelivered entry' hentry')
    · rcases List.mem_cons.mp hentry' with rfl | hentry'
      · exact absurd hsame (hundelivered entry hentry)
      · exact h.once entry hentry entry' hentry' hsame
  · intro entry hentry
    exact List.mem_cons_of_mem _ (h.read entry hentry)

/-- A code is returned to the web. -/
theorem Redeemed.disclose (h : Redeemed t H) {code : String}
    (hrow : ∃ row ∈ t.codes.rows, row.code = code) (hunbound : DisclosesUnbound t code)
    (hnobody : ∀ j, ¬(H j).Issues code) :
    Redeemed { t with history := { t.history with disclosed := code :: t.history.disclosed } }
      H := by
  refine ⟨?_, h.issuer, h.redeemers, h.redeemer, h.delivered, h.once, ?_, h.read,
    h.linked, h.single⟩
  · intro j other hj
    obtain ⟨hundisclosed, hrest⟩ := h.issuers j other hj
    refine ⟨?_, hrest⟩
    intro hmem
    rcases List.mem_cons.mp hmem with rfl | hmem
    · exact hnobody j hj
    · exact hundisclosed hmem
  · intro other hother
    rcases List.mem_cons.mp hother with rfl | hother
    · exact ⟨hrow, hunbound⟩
    · exact h.disclosed other hother

/-- A binding is read, of a code that was delivered and not returned. -/
theorem Redeemed.readBinding (h : Redeemed t H) {entry : String × String}
    (hdelivered : entry ∈ t.history.delivered) (hundisclosed : entry.1 ∉ t.history.disclosed) :
    Redeemed { t with history := { t.history with read := entry :: t.history.read } } H := by
  refine ⟨h.issuers, h.issuer, h.redeemers, h.redeemer, h.delivered, h.once, ?_, ?_, ?_, h.single⟩
  · intro code hcode
    obtain ⟨hexists, hunbound, hunread⟩ := h.disclosed code hcode
    refine ⟨hexists, hunbound, ?_⟩
    intro other hother
    rcases List.mem_cons.mp hother with rfl | hother
    · rintro rfl
      exact hundisclosed hcode
    · exact hunread other hother
  · intro other hother
    rcases List.mem_cons.mp hother with rfl | hother
    · exact hdelivered
    · exact h.read other hother
  · intro link hlink
    obtain ⟨hused, hjustified⟩ := h.linked link hlink
    exact ⟨hused,
      hjustified.later ⟨fun _ _ _ h => h, fun _ h => h, fun _ h => List.mem_cons_of_mem _ h⟩⟩

/-- An identity is linked with a code that is used and linked nothing yet. -/
theorem Redeemed.link (h : Redeemed t H) {link : Link} (hused : Used t link.code)
    (hunlinked : ∀ other ∈ t.history.links, other.code ≠ link.code)
    (hnobody : ∀ j, H j ≠ .redeeming link.code) (hjustified : Justified t link)
    (nodes : Keyed nodeKey) :
    Redeemed { t with
      nodes := nodes, history := { t.history with links := link :: t.history.links } } H := by
  refine ⟨h.issuers, h.issuer, ?_, h.redeemer, h.delivered, h.once, h.disclosed, h.read, ?_, ?_⟩
  · intro j code hj
    obtain ⟨hclaimed, hothers⟩ := h.redeemers j code hj
    refine ⟨hclaimed, ?_⟩
    intro other hother
    rcases List.mem_cons.mp hother with rfl | hother
    · rintro rfl
      exact hnobody j hj
    · exact hothers other hother
  · intro other hother
    rcases List.mem_cons.mp hother with rfl | hother
    · exact ⟨hused, hjustified⟩
    · exact h.linked other hother
  · refine List.nodup_cons.mpr ⟨?_, h.single⟩
    intro hmem
    obtain ⟨other, hother, hsame⟩ := List.mem_map.mp hmem
    exact hunlinked other hother hsame

end Steps

section Requests

variable {K : Tables → Prop} {held : Holding} {E : Tables → Prop}

theorem stable_issued (code userId platform : String) :
    (linkingCustody d).Stable fun t => Issued t code userId platform :=
  fun _ _ hfollows h => hfollows.issued _ _ _ h

theorem stable_sent (entry : String × String × String) :
    (linkingCustody d).Stable fun t => entry ∈ t.history.sent :=
  fun _ _ hfollows h => hfollows.sent _ h

theorem stable_read (entry : String × String) :
    (linkingCustody d).Stable fun t => entry ∈ t.history.read :=
  fun _ _ hfollows h => hfollows.read _ h

theorem stable_justified (link : Link) : (linkingCustody d).Stable fun t => Justified t link :=
  fun _ _ hfollows h => h.later hfollows

/-- The code of a row decides for whom and where it was issued. -/
theorem Issued.unique {code userId userId' platform platform' : String}
    (h : Issued t code userId platform) (h' : Issued t code userId' platform') :
    userId = userId' ∧ platform = platform' := by
  obtain ⟨row, hrow, hcode, hrowUser, hrowPlatform⟩ := h
  obtain ⟨row', hrow', hcode', hrowUser', hrowPlatform'⟩ := h'
  have hsame : row = row' := t.codes.eq_of_key hrow hrow' (hcode.trans hcode'.symm)
  subst hsame
  exact ⟨hrowUser.symm.trans hrowUser', hrowPlatform.symm.trans hrowPlatform'⟩

theorem Used.unused {code : String} (h : Used t code) {row : VerificationCode}
    (hrow : row ∈ t.codes.rows) (hcode : row.code = code) : row.usedAt ≠ none := by
  obtain ⟨row', hrow', hcode', hused⟩ := h
  have hsame : row = row' := t.codes.eq_of_key hrow hrow' (hcode.trans hcode'.symm)
  exact hsame ▸ hused

/-- Requests that touch neither codes nor bindings nor what the history remembers. -/
def Request.isRoutine : Request → Bool
  | .now | .findAccount _ | .createAccount _ _ | .findUserById _ | .findUserByUsername _
    _ | .findNodeByUsername _ _
  | .findNode _ _ | .setPending _ _ _ _ _ | .findCode _ | .setColumn _ _ _ | .renameUser _ _ => true
  | _ => false

theorem carry_routine {r : Request} (hr : r.isRoutine) (d : Setting) (t : Tables) :
    (carry d t r).2.codes = t.codes ∧ (carry d t r).2.bindings = t.bindings ∧
    (carry d t r).2.now = t.now ∧
      (carry d t r).2.history = t.history := by
  cases r with
  | createAccount id address =>
    simp only [carry]
    split_ifs
    · exact ⟨rfl, rfl, rfl, rfl⟩
    · exact ⟨rfl, rfl, rfl, rfl⟩
  | setColumn userId platform platformUserId =>
    simp only [carry]
    split
    · split_ifs
      · exact ⟨rfl, rfl, rfl, rfl⟩
      · exact ⟨rfl, rfl, rfl, rfl⟩
    · exact ⟨rfl, rfl, rfl, rfl⟩
  | renameUser userId username =>
    simp only [carry]
    split_ifs
    · exact ⟨rfl, rfl, rfl, rfl⟩
    · exact ⟨rfl, rfl, rfl, rfl⟩
  | supersedeCodes | createCode | setBinding | sendMessage | deleteBinding | disclose | getBinding |
      claimCode | releaseCode
  | upsertNode => cases hr
  | _ => exact ⟨rfl, rfl, rfl, rfl⟩

theorem keeps_routine {r : Request} (hr : r.isRoutine) (hK : (linkingCustody d).Stable K) :
    (linkingCustody d).Keeps i op (ask r) K held (fun _ => K) E := by
  apply Custody.Keeps.ask fun _ => hK
  intro t H hinv hknown _ _
  obtain ⟨hcodes, hbindings, hnow, hhistory⟩ := carry_routine hr d t
  obtain ⟨hfollows, hkept⟩ := Redeemed.frame hinv hcodes hbindings hnow hhistory
  exact ⟨hfollows, hkept, hK t _ hfollows hknown⟩

/-- A code is looked up whose platform is known. -/
theorem keeps_findCode {code platform : String} (hK : (linkingCustody d).Stable K)
    (hplatform : ∀ t, K t → ∃ userId, Issued t code userId platform) :
    (linkingCustody d).Keeps i op (ask (.findCode code)) K held
      (fun found t => (∀ record ∈ found, Issued t code record.userId platform) ∧ K t) E := by
  apply Custody.Keeps.read Follows.refl fun _ => rfl
  · intro found
    apply Custody.Stable.and _ hK
    intro t t' hfollows hissued record hrecord
    exact hfollows.issued _ _ _ (hissued record hrecord)
  · intro t H _ hknown
    refine ⟨?_, hknown⟩
    intro record hrecord
    obtain ⟨hrow, hcode⟩ := Keyed.find?_eq_some.mp hrecord
    obtain ⟨userId, hissued⟩ := hplatform t hknown
    have hrecorded : Issued t code record.userId record.platform := ⟨record, hrow, hcode, rfl, rfl⟩
    rw [(hissued.unique hrecorded).2]
    exact hrecorded

/-- Rows are used, and a chat may have sent a code. -/
theorem Redeemed.use (h : Redeemed t H) (p : VerificationCode → Bool) (now : ℤ) (usedBy : String)
    (sent : List (String × String × String)) (hsent : ∀ entry ∈ t.history.sent, entry ∈ sent) :
    Follows t { t with
        codes := t.codes.update p (·.use now usedBy) fun _ => rfl
        history := { t.history with sent := sent } } ∧
      Redeemed { t with
        codes := t.codes.update p (·.use now usedBy) fun _ => rfl
        history := { t.history with sent := sent } } H := by
  refine h.of_codes ?_ ?_ rfl rfl rfl hsent
  · rintro code userId platform ⟨row, hrow, hcode, huser, hplatform⟩
    refine ⟨if p row then row.use now usedBy else row, List.mem_map.mpr ⟨row, hrow, rfl⟩, ?_⟩
    split_ifs
    · exact ⟨hcode, huser, hplatform⟩
    · exact ⟨hcode, huser, hplatform⟩
  · rintro code ⟨row, hrow, hcode, hused⟩ _
    refine ⟨if p row then row.use now usedBy else row, List.mem_map.mpr ⟨row, hrow, rfl⟩, ?_⟩
    split_ifs
    · exact ⟨hcode, Option.some_ne_none now⟩
    · exact ⟨hcode, hused⟩

theorem keeps_supersede {userId platform : String} {now : ℤ} (hK : (linkingCustody d).Stable K) :
    (linkingCustody d).Keeps i op (ask (.supersedeCodes userId platform now)) K held
      (fun _ => K) E := by
  apply Custody.Keeps.ask fun _ => hK
  intro t H hinv hknown _ _
  have hstep :=
    Redeemed.use hinv
      (fun row => row.userId = userId && (row.platform = platform && row.usedAt = none)) now
    "superseded" t.history.sent fun _ h => h
  exact ⟨hstep.1, hstep.2, hK t _ hstep.1 hknown⟩

/-- A new code belongs to the call that has created it. -/
theorem upholds_createCode {row : VerificationCode} {F : Tables → Holding → Prop} :
    (linkingCustody d).Upholds i op (ask (.createCode row)) (fun _ => True) .nothing
      (fun created t held => held = (if created then .issuing row.code else .nothing) ∧
        (created → Issued t row.code row.userId row.platform)) F := by
  refine Custody.Upholds.ask (D := linkingCustody d) (r := .createCode row)
    (fun created => if created then Holding.issuing row.code else .nothing) ?_ ?_
  · intro created t t' hfollows hissued hcreated
    exact hfollows.issued _ _ _ (hissued hcreated)
  intro t H hinv _ hheld _
  have hinv : Redeemed t H := hinv
  show Follows t (carry d t (.createCode row)).2 ∧
    Redeemed (carry d t (.createCode row)).2
      (Function.update H i (if (carry d t (.createCode row)).1 then .issuing row.code
        else .nothing)) ∧
    ((carry d t (.createCode row)).1 →
      Issued (carry d t (.createCode row)).2 row.code row.userId row.platform)
  cases hinsert : t.codes.insert row with
  | some codes =>
    have hcarry : carry d t (.createCode row) = (true, { t with codes := codes }) := by
      simp only [carry, hinsert]
    rw [hcarry]
    have hfresh : ∀ old ∈ t.codes.rows, old.code ≠ row.code := by
      intro old hold hsame
      have hnone := Keyed.insert_eq_none.mpr ⟨old, hold, hsame⟩
      rw [hnone] at hinsert
      cases hinsert
    have hmem : ∀ other, other ∈ codes.rows ↔ other ∈ t.codes.rows ∨ other = row :=
      fun _ => Keyed.mem_insert hinsert
    have hstep : Follows t { t with codes := codes } ∧ Redeemed { t with codes := codes } H := by
      refine hinv.of_codes ?_ ?_ rfl rfl rfl fun _ h => h
      · rintro code userId platform ⟨old, hold, hrest⟩
        exact ⟨old, (hmem old).mpr (.inl hold), hrest⟩
      · rintro code ⟨old, hold, hrest⟩ _
        exact ⟨old, (hmem old).mpr (.inl hold), hrest⟩
    refine ⟨hstep.1, ?_, fun _ => ⟨row, (hmem row).mpr (.inr rfl), rfl, rfl, rfl⟩⟩
    apply hstep.2.hold
    · rintro code (⟨⟨⟩⟩ | ⟨⟨⟩⟩)
      refine ⟨?_, ⟨row, (hmem row).mpr (.inr rfl), rfl⟩, ?_, ?_⟩
      · intro hdisclosed
        obtain ⟨⟨old, hold, hsame⟩, -⟩ := hinv.disclosed _ hdisclosed
        exact hfresh old hold hsame
      · intro _ entry hentry hsame
        obtain ⟨userId, old, hold, hcode, -⟩ := hinv.delivered entry hentry
        exact hfresh old hold (hcode.trans hsame)
      · intro j _ hj
        obtain ⟨-, ⟨old, hold, hsame⟩, -⟩ := hinv.issuers j _ hj
        exact hfresh old hold hsame
    · rintro code ⟨⟩
  | none =>
    have hcarry : carry d t (.createCode row) = (false, t) := by simp only [carry, hinsert]
    rw [hcarry]
    refine ⟨Follows.refl t, hinv.drop i, ?_⟩
    intro hcreated
    cases hcreated

/-- The binding of a code that the call is giving away. -/
theorem keeps_setBinding {code : String} {target : Target} {ttl : ℤ} {outcome : Outcome}
    (hK : (linkingCustody d).Stable K) :
    (linkingCustody d).Keeps i op (ask (.setBinding code target ttl outcome)) K (.issuing code)
      (fun _ => K) E := by
  apply Custody.Keeps.ask fun _ => hK
  intro t H hinv hknown hheld _
  have hinv : Redeemed t H := hinv
  have hundisclosed := (hinv.issuers i code (.inl hheld)).1
  have hstep : Follows t (carry d t (.setBinding code target ttl outcome)).2 ∧
      Redeemed (carry d t (.setBinding code target ttl outcome)).2 H := by
    simp only [carry]
    split_ifs
    · exact ⟨Follows.refl t, hinv⟩
    · exact ⟨.same rfl rfl rfl, hinv.bindings fun hdisclosed => absurd hdisclosed hundisclosed⟩
  exact ⟨hstep.1, hstep.2, hK t _ hstep.1 hknown⟩

theorem keeps_deleteBinding {code : String} {outcome : Outcome} (hK : (linkingCustody d).Stable K) :
    (linkingCustody d).Keeps i op (ask (.deleteBinding code outcome)) K held (fun _ => K) E := by
  apply Custody.Keeps.ask fun _ => hK
  intro t H hinv hknown _ _
  have hinv : Redeemed t H := hinv
  have hstep : Follows t (carry d t (.deleteBinding code outcome)).2 ∧
      Redeemed (carry d t (.deleteBinding code outcome)).2 H := by
    simp only [carry]
    split_ifs
    · exact ⟨Follows.refl t, hinv⟩
    · exact ⟨.same rfl rfl rfl, hinv.bindings fun _ => rfl⟩
  exact ⟨hstep.1, hstep.2, hK t _ hstep.1 hknown⟩

/-- A code is delivered once, by the call that has created it. -/
theorem upholds_sendMessage {code userId platformUserId : String} {outcome : Outcome}
    {F : Tables → Holding → Prop} :
    (linkingCustody d).Upholds i op (ask (.sendMessage code platformUserId outcome))
      (fun t => Issued t code userId "telegram") (.issuing code)
        (fun _ _ held => held = .delivering code) F := by
  apply Custody.Upholds.handOver
  intro t H hinv hissued hheld _
  have hinv : Redeemed t H := hinv
  obtain ⟨hundisclosed, hrow, hundelivered⟩ := hinv.issuers i code (.inl hheld)
  have hothers : ∀ j ≠ i, ¬(H j).Issues code :=
    fun j hj hissues => hj (hinv.issuer j i code hissues (.inl hheld))
  have hkept : Redeemed t (Function.update H i (.delivering code)) := by
    apply hinv.hold
    · rintro other (⟨⟨⟩⟩ | ⟨⟨⟩⟩)
      exact ⟨hundisclosed, hrow, fun h => (nomatch h), hothers⟩
    · rintro other ⟨⟩
  have hnobody : ∀ j, Function.update H i (.delivering code) j ≠ .issuing code := by
    intro j hj
    by_cases hij : j = i
    · subst hij
      rw [Function.update_self] at hj
      cases hj
    · rw [Function.update_of_ne hij] at hj
      exact hothers j hij (.inl hj)
  constructor
  · show Follows t (carry d t (.sendMessage code platformUserId outcome)).2
    simp only [carry]
    split_ifs
    · exact Follows.refl t
    · exact .same rfl rfl rfl
  · show Redeemed (carry d t (.sendMessage code platformUserId outcome)).2 _
    simp only [carry]
    split_ifs
    · exact hkept
    · exact hkept.deliver (hundelivered hheld) hnobody hissued platformUserId

/-- A code is returned by the call that has created it. -/
theorem upholds_disclose {code : String} (hheld : held.Issues code) {F : Tables → Holding → Prop} :
    (linkingCustody d).Upholds i op (ask (.disclose code)) (fun _ => True) held
      (fun _ _ held' => held' = .nothing) F := by
  apply Custody.Upholds.handOver
  intro t H hinv _ hholds hunbound
  have hinv : Redeemed t H := hinv
  have hissues : (H i).Issues code := hholds ▸ hheld
  refine ⟨.same rfl rfl rfl, ?_⟩
  apply (hinv.drop i).disclose (hinv.issuers i code hissues).2.1 hunbound
  intro j
  exact issues_update_nothing hissues hinv j

/-- What is read of a binding was delivered. -/
theorem keeps_getBinding {code : String} {outcome : Outcome} :
    (linkingCustody d).Keeps i op (ask (.getBinding code outcome)) (fun _ => True) held
      (fun found t => ∀ target ∈ found, (code, target.platformUserId) ∈ t.history.read) E := by
  refine Custody.Keeps.ask ?_ ?_
  · intro found t t' hfollows hread target htarget
    exact hfollows.read _ (hread target htarget)
  intro t H hinv _ _ hallows
  have hinv : Redeemed t H := hinv
  cases hfound : (if outcome = .answered then t.binding code else none) with
  | none =>
    have hcarry : carry d t (.getBinding code outcome) = (none, t) := by
      simp only [carry, hfound]; rfl
    show Follows t (carry d t (.getBinding code outcome)).2 ∧
        Redeemed (carry d t (.getBinding code outcome)).2 H ∧ _
    rw [hcarry]
    refine ⟨Follows.refl t, hinv, ?_⟩
    intro target htarget
    rw [show ((linkingCustody d).service.carry i op t (.getBinding code outcome)).1 = none from
      congrArg Prod.fst hcarry] at htarget
    cases htarget
  | some target =>
    obtain ⟨houtcome, hbinding⟩ : outcome = .answered ∧ t.binding code = some target := by
      split_ifs at hfound with houtcome
      exact ⟨houtcome, hfound⟩
    have hdelivered := hallows houtcome target hbinding
    have hundisclosed : code ∉ t.history.disclosed := by
      intro hdisclosed
      have hunbound := (hinv.disclosed code hdisclosed).2.1
      rw [hbinding] at hunbound
      cases hunbound
    have hcarry : carry d t (.getBinding code outcome) = (some target,
        { t with
          history := { t.history with
            read := (code, target.platformUserId) :: t.history.read } }) := by
      simp only [carry, hfound]
      rfl
    have hstep := hinv.readBinding hdelivered hundisclosed
    show Follows t (carry d t (.getBinding code outcome)).2 ∧
        Redeemed (carry d t (.getBinding code outcome)).2 H ∧
      ∀ target ∈ (carry d t (.getBinding code outcome)).1, (code,
        target.platformUserId) ∈ (carry d t (.getBinding code outcome)).2.history.read
    rw [hcarry]
    refine ⟨⟨fun _ _ _ h => h, fun _ h => h, fun _ h => List.mem_cons_of_mem _ h⟩, hstep, ?_⟩
    rintro _ ⟨⟩
    exact List.mem_cons_self

/-- Whoever claims a code that nobody has used holds it. -/
theorem upholds_claimCode {code platform usedBy : String} {now : ℤ} {bySender : Bool}
    {F : Tables → Holding → Prop} (hK : (linkingCustody d).Stable K) :
    (linkingCustody d).Upholds i op (ask (.claimCode code platform usedBy now bySender)) K .nothing
      (fun claimed t held => held = (if claimed = 1 then .redeeming code else .nothing) ∧
        (claimed = 1 → (∃ userId, Issued t code userId platform) ∧
          (bySender → (code, platform, usedBy) ∈ t.history.sent)) ∧ K t) F := by
  refine Custody.Upholds.ask (D := linkingCustody d)
    (r := .claimCode code platform usedBy now bySender)
    (fun claimed : ℕ => if claimed = 1 then .redeeming code else .nothing) ?_ ?_
  · intro claimed
    apply Custody.Stable.and _ hK
    intro t t' hfollows hclaimed hone
    obtain ⟨⟨userId, hissued⟩, hsent⟩ := hclaimed hone
    exact ⟨⟨userId, hfollows.issued _ _ _ hissued⟩, fun hby => hfollows.sent _ (hsent hby)⟩
  intro t H hinv hknown hheld _
  have hinv : Redeemed t H := hinv
  have hgrown : ∀ entry ∈ t.history.sent,
      entry ∈ if bySender then (code, platform, usedBy) :: t.history.sent else t.history.sent := by
    intro entry hentry
    split_ifs
    · exact List.mem_cons_of_mem _ hentry
    · exact hentry
  obtain ⟨hfollows, hkept⟩ := hinv.use (Tables.usable code platform now) now usedBy _ hgrown
  have hfree : t.codes.count (Tables.usable code platform now) = 1 →
      ∃ row ∈ t.codes.rows, row.code = code ∧ row.platform = platform ∧ row.usedAt = none ∧
      Tables.usable code platform now row := by
    intro hone
    obtain ⟨row, hrow, husable⟩ :=
      List.countP_pos_iff.mp (hone.symm ▸ Nat.one_pos : 0 < t.codes.rows.countP _)
    have hrowIs : row.code = code ∧ row.platform = platform ∧ row.usedAt = none := by
      simp only [Tables.usable, Bool.and_eq_true, decide_eq_true_eq] at husable
      exact ⟨husable.1, husable.2.1, husable.2.2.1⟩
    exact ⟨row, hrow, hrowIs.1, hrowIs.2.1, hrowIs.2.2, husable⟩
  refine ⟨hfollows, ?_, ?_, hK t _ hfollows hknown⟩
  · show Redeemed _
      (Function.update H i (if t.codes.count (Tables.usable code platform now) = 1 then _ else _))
    split_ifs with hone
    · obtain ⟨row, hrow, hcode, -, hunused, husable⟩ := hfree hone
      have hnotUsed : ¬Used t code := fun hused => hused.unused hrow hcode hunused
      apply hkept.hold
      · rintro other (⟨⟨⟩⟩ | ⟨⟨⟩⟩)
      · rintro other ⟨⟩
        refine ⟨⟨row.use now usedBy, List.mem_map.mpr ⟨row, hrow, if_pos husable⟩, hcode,
          Option.some_ne_none now⟩, ?_, ?_⟩
        · intro link hlink hsame
          exact hnotUsed (hsame ▸ (hinv.linked link hlink).1)
        · intro j _ hj
          exact hnotUsed (hinv.redeemers j code hj).1
    · exact hkept.drop i
  · intro hone
    obtain ⟨row, hrow, hcode, hplatform, -⟩ := hfree hone
    refine ⟨⟨row.userId, hfollows.issued _ _ _ ⟨row, hrow, hcode, rfl, hplatform⟩⟩, ?_⟩
    intro hby
    show _ ∈ if bySender then _ else _
    rw [if_pos hby]
    exact List.mem_cons_self

/-- A claim that did not link is taken back. -/
theorem upholds_releaseCode {code : String} {F : Tables → Holding → Prop} :
    (linkingCustody d).Upholds i op (ask (.releaseCode code)) (fun _ => True) (.redeeming code)
      (fun _ _ held => held = .nothing) F := by
  apply Custody.Upholds.handOver
  intro t H hinv _ hheld _
  have hinv : Redeemed t H := hinv
  have hstep : Follows t (carry d t (.releaseCode code)).2 ∧
      Redeemed (carry d t (.releaseCode code)).2 (Function.update H i .nothing) := by
    refine (hinv.drop i).of_codes ?_ ?_ rfl rfl rfl fun _ h => h
    · rintro other userId platform ⟨row, hrow, hcode, huser, hplatform⟩
      refine ⟨if row.code = code then row.release
        else row, List.mem_map.mpr ⟨row, hrow, by simp⟩, ?_⟩
      split_ifs
      · exact ⟨hcode, huser, hplatform⟩
      · exact ⟨hcode, huser, hplatform⟩
    · rintro other ⟨row, hrow, hcode, hused⟩ hneeded
      have hne : row.code ≠ code := by
        rw [hcode]
        rintro rfl
        rcases hneeded with ⟨link, hlink, hsame⟩ | ⟨j, hj⟩
        · exact (hinv.redeemers i other hheld).2 link hlink hsame
        · exact redeeming_update_nothing hheld hinv j hj
      exact ⟨row, List.mem_map.mpr ⟨row, hrow, by simp [hne]⟩, hcode, hused⟩
  exact hstep

/-- A claimed code links one identity. -/
theorem upholds_upsertNode {link : Link} {username : Option String} {F : Tables → Holding → Prop} :
    (linkingCustody d).Upholds i op (ask (.upsertNode link username)) (fun t => Justified t link)
      (.redeeming link.code) (fun _ _ held => held = .nothing) F := by
  apply Custody.Upholds.handOver
  intro t H hinv hjustified hheld _
  have hinv : Redeemed t H := hinv
  obtain ⟨hused, hunlinked⟩ := hinv.redeemers i link.code hheld
  refine ⟨.same rfl rfl rfl, ?_⟩
  exact (hinv.drop i).link hused hunlinked (redeeming_update_nothing hheld hinv) hjustified _

end Requests

end Redemption

end VeriAgentPay.AccountLinking
