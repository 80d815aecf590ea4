import VeriAgentPay.LedgerEffects

/-!
# What a record keeps over its whole history

A record never leaves its address and never changes what it was created with: a vault its
keys, a session its policy, a link its terms. Its counters only grow, and a link changes once.
Every record is at the address derived from its own fields, so no two records say the same,
and the vaults that a session or a link names exist.
-/

namespace VeriAgentPay
open FixedWidth CheckedOutcome LabelledRuns

/-- How the record at one address may look later. -/
inductive Evolves : AccountData → AccountData → Prop
  | config (c : ProtocolConfig) : Evolves (.config c) (.config c)
  | claimAuthority (c : ClaimAuthorityConfig) : Evolves (.claimAuthority c) (.claimAuthority c)
  | vault (v : Vault) (nonce : UInt64) (grows : v.nonce.toNat ≤ nonce.toNat) :
      Evolves (.vault v) (.vault { v with nonce := nonce })
  | session (s : Session) (spent nonce : UInt64) (grows : s.spent.toNat ≤ spent.toNat)
      (grows' : s.nonce.toNat ≤ nonce.toNat) :
      Evolves (.session s) (.session { s with spent := spent, nonce := nonce })
  | link (l l' : PaymentLink) (terms : l'.terms = l.terms)
      (settled : l.status ≠ paymentLinkStatusActive → l' = l) : Evolves (.link l) (.link l')

theorem Evolves.refl {d : AccountData} (h : d.programOwned = true) : Evolves d d := by
  cases d with
  | config c => exact .config c
  | claimAuthority c => exact .claimAuthority c
  | vault v => exact .vault v v.nonce le_rfl
  | session s => exact .session s s.spent s.nonce le_rfl le_rfl
  | link l => exact .link l l rfl fun _ => rfl
  | _ => cases h

theorem Evolves.trans {d d' d'' : AccountData} (h : Evolves d d') (h' : Evolves d' d'') :
    Evolves d d'' := by
  cases h with
  | config c => exact h'
  | claimAuthority c => exact h'
  | vault v nonce grows =>
    cases h' with
    | vault _ nonce' grows' => exact .vault v nonce' (grows.trans grows')
  | session s spent nonce hspent hnonce =>
    cases h' with
    | session _ spent' nonce' hspent' hnonce' =>
      exact .session s spent' nonce' (hspent.trans hspent') (hnonce.trans hnonce')
  | link l l' terms settled =>
    cases h' with
    | link _ l'' terms' settled' =>
      refine .link l l'' (terms'.trans terms) ?_
      intro hactive
      obtain rfl := settled hactive
      exact settled' hactive

theorem Evolves.owned {d d' : AccountData} (h : Evolves d d') : d'.programOwned = true := by
  cases h <;> rfl

section Steps

variable {rt : Runtime} {ctx : Context} {c : Call} {w w' : World} {e : Event} {key : Pubkey}

theorem Settlement.terms_eq {link link' : PaymentLink}
    (h : Settlement rt ctx c w w' key link link') :
    link'.terms = link.terms := by
  cases h <;> rfl

theorem RecordChange.evolves {before after : AccountData}
    (h : RecordChange rt ctx c w w' key before after)
    (hbefore : before.programOwned = true) : Evolves before after := by
  cases h with
  | vaultUsed vault action key_eq use n next => exact .vault vault n (by omega)
  | sessionUsed vault session amount nonce call use admitted spent n spent_eq next =>
    exact .session session spent n (by omega) (by omega)
  | linkSettled link link' active how =>
    exact .link link link' how.terms_eq fun hsettled => absurd active hsettled
  | _ => cases hbefore

theorem step_evolves (h : Step rt w e w') (howned : (w.data key).programOwned = true) :
    Evolves (w.data key) (w'.data key) := by
  rcases step_record_before h rfl howned with heq | ⟨ctx, c, after, -, -, -, hafter, hchange⟩
  · rw [heq]
    exact .refl howned
  · rw [hafter]
    exact hchange.evolves howned

/-- A vault stays a vault. -/
theorem step_vault_kept (h : Step rt w e w') (hvault : ∃ v, w.data key = .vault v) :
    ∃ v, w'.data key = .vault v := by
  obtain ⟨v, hv⟩ := hvault
  have hevolves : Evolves (w.data key) (w'.data key) := step_evolves h (by rw [hv]; rfl)
  rw [hv] at hevolves
  cases hafter : w'.data key with
  | vault v' => exact ⟨v', rfl⟩
  | _ =>
    rw [hafter] at hevolves
    cases hevolves

/-- Over any run, from any ledger, a record that is there stays there as it was made. -/
theorem records_evolve {start finish : World} {tr : List (Transition World Event)}
    (hrun : Run (Step rt) start tr finish) (howned : (start.data key).programOwned = true) :
    Evolves (start.data key) (finish.data key) := by
  refine hrun.invariant (I := fun w => Evolves (start.data key) (w.data key))
    (Evolves.refl howned) ?_
  intro u e v hprefix hstep
  exact hprefix.trans (step_evolves hstep hprefix.owned)

end Steps

/-- The vaults that records name exist. -/
structure Grounded (w : World) : Prop where
  session : ∀ key s, w.data key = .session s → ∃ v, w.data s.vault = .vault v
  sender : ∀ key l, w.data key = .link l → ∃ v, w.data l.senderVault = .vault v
  recipient : ∀ key l, w.data key = .link l → l.status = paymentLinkStatusClaimed →
    ∃ v, w.data l.claimedDestination = .vault v

section Invariants

variable {rt : Runtime} {w w' : World} {e : Event}

theorem canonical_of_not_owned {key : Pubkey} {d : AccountData} (h : d.programOwned = false) :
    Canonical rt key d := by
  cases d with
  | config c => cases h
  | claimAuthority c => cases h
  | vault v => cases h
  | session s => cases h
  | link l => cases h
  | _ => trivial

theorem Effect.canonical (h : Effect rt w w') (hall : ∀ k, Canonical rt k (w.data k)) (k : Pubkey) :
    Canonical rt k (w'.data k) := by
  cases h with
  | @created _ payer key d allocated paid canonical empty =>
    rw [allocated.data_eq]
    by_cases hk : k = key
    · subst hk
      rwa [Function.update_self]
    · rw [Function.update_of_ne hk]
      exact hall k
  | @rewritten key d d' before owned owned' canonical =>
    by_cases hk : k = key
    · subst hk
      rw [World.setData_data, Function.update_self]
      exact canonical (before ▸ hall k)
    · rw [World.setData_data, Function.update_of_ne hk]
      exact hall k
  | @tokensMoved _ source destination authority mint amount s d ne moved =>
    by_cases hs : k = source
    · rw [hs, moved.source_after]
      trivial
    · by_cases hd : k = destination
      · obtain ⟨r, -, hafter⟩ := moved.destination_after
        rw [hd, hafter]
        trivial
      · rw [moved.others k hs hd]
        exact hall k
  | lamportsMoved ne moved =>
    rw [moved.data_eq]
    exact hall k

theorem Effects.canonical (h : Effects rt w w') (hall : ∀ k, Canonical rt k (w.data k))
    (k : Pubkey) :
    Canonical rt k (w'.data k) := by
  induction h generalizing k with
  | refl => exact hall k
  | tail _ hlast ih => exact hlast.canonical ih k

theorem step_canonical (h : Step rt w e w') (hall : ∀ k, Canonical rt k (w.data k)) (k : Pubkey) :
    Canonical rt k (w'.data k) := by
  cases e with
  | call ctx c => exact (exec_effects h).canonical hall k
  | env =>
    have henv : EnvStep rt w w' := h
    cases howned : (w'.data k).programOwned with
    | false => exact canonical_of_not_owned howned
    | true =>
      rw [henv.not_forged k howned]
      exact hall k

theorem Genesis.grounded (h : Genesis w) : Grounded w where
  session key s hs := by
    have := h.no_records key
    simp [hs, AccountData.programOwned] at this
  sender key l hl := by
    have := h.no_records key
    simp [hl, AccountData.programOwned] at this
  recipient key l hl := by
    have := h.no_records key
    simp [hl, AccountData.programOwned] at this

/-- A settled link names the vaults it named, or one that exists when it is claimed. -/
theorem Settlement.grounded {ctx : Context} {c : Call} {key : Pubkey} {link link' : PaymentLink}
    (h : Settlement rt ctx c w w' key link link') : link'.senderVault = link.senderVault ∧
      (link'.status = paymentLinkStatusClaimed →
        ∃ v, w.data link'.claimedDestination = .vault v) := by
  cases h with
  | claimed recipientVault signed time recipient paid => exact ⟨rfl, fun _ => recipient⟩
  | cancelledBySession =>
    exact ⟨rfl, fun hstatus => absurd hstatus
      (by simp [PaymentLink.cancelled, paymentLinkStatusCancelled, paymentLinkStatusClaimed])⟩
  | cancelledByRoot =>
    exact ⟨rfl, fun hstatus => absurd hstatus
      (by simp [PaymentLink.cancelled, paymentLinkStatusCancelled, paymentLinkStatusClaimed])⟩
  | refunded =>
    exact ⟨rfl, fun hstatus => absurd hstatus
      (by simp [PaymentLink.refunded, paymentLinkStatusRefunded, paymentLinkStatusClaimed])⟩

theorem Grounded.step (hg : Grounded w) (h : Step rt w e w') : Grounded w' where
  session := by
    intro key s hafter
    rcases step_record_after h hafter rfl with hbefore | ⟨ctx, c, before, -, -, hchange⟩
    · exact step_vault_kept h (hg.session key s hbefore)
    · cases hchange with
      | sessionCreated vault policy bump valid granted =>
        obtain ⟨v, action, proof, -, -, ⟨hv, -⟩ | ⟨-, hv⟩⟩ := granted
        · exact step_vault_kept h ⟨v, hv⟩
        · exact ⟨v, hv⟩
      | sessionUsed vault session amount nonce call use admitted spent n spent_eq next =>
        exact step_vault_kept h (hg.session key session use.before)
  sender := by
    intro key l hafter
    rcases step_record_after h hafter rfl with hbefore | ⟨ctx, c, before, -, hbefore, hchange⟩
    · exact step_vault_kept h (hg.sender key l hbefore)
    · cases hchange with
      | linkCreated bump vault mint linkId commitment amount expiresAt positive address
          authorized funded =>
        rcases authorized with ⟨sessionKey, session, nonce, -, use, -⟩ | ⟨v, action, scope, nonce,
          expires, use, rfl⟩
        · have hvault := hg.session sessionKey session use.before
          rw [use.vault_eq] at hvault
          exact step_vault_kept h hvault
        · exact step_vault_kept h ⟨v, use.before⟩
      | linkSettled link _ active how =>
        rw [how.grounded.1]
        exact step_vault_kept h (hg.sender key link hbefore)
  recipient := by
    intro key l hafter hstatus
    rcases step_record_after h hafter rfl with hbefore | ⟨ctx, c, before, -, hbefore, hchange⟩
    · exact step_vault_kept h (hg.recipient key l hbefore hstatus)
    · cases hchange with
      | linkCreated bump vault mint linkId commitment amount expiresAt positive address
          authorized funded =>
        simp [newPaymentLink, paymentLinkStatusActive, paymentLinkStatusClaimed] at hstatus
      | linkSettled link _ active how => exact step_vault_kept h (how.grounded.2 hstatus)

end Invariants

/-- No two records of one kind are for the same thing. -/
structure OneOfEach (w : World) : Prop where
  config : ∀ k k' c c', w.data k = .config c → w.data k' = .config c' → k = k'
  claimAuthority :
    ∀ k k' c c', w.data k = .claimAuthority c → w.data k' = .claimAuthority c' → k = k'
  vault : ∀ k k' v v', w.data k = .vault v → w.data k' = .vault v' →
    v.rootKeyHash = v'.rootKeyHash →
    v.userSalt = v'.userSalt → k = k'
  session : ∀ k k' s s', w.data k = .session s → w.data k' = .session s' → s.vault = s'.vault →
    s.publicKey = s'.publicKey → k = k'
  link : ∀ k k' l l', w.data k = .link l → w.data k' = .link l' → l.senderVault = l'.senderVault →
    l.linkId = l'.linkId → k = k'

section Runs

variable {rt : Runtime} {w : World}

theorem oneOfEach_of_canonical (hall : ∀ k, Canonical rt k (w.data k)) : OneOfEach w := by
  have hunique : ∀ {seeds : List Bytes} {k k' : Pubkey} {b b' : UInt8},
      findProgramAddress rt rt.programId seeds = some (k, b) →
      findProgramAddress rt rt.programId seeds = some (k', b') → k = k' := by
    intro seeds k k' b b' hk hk'
    exact congrArg Prod.fst (Option.some.inj (hk.symm.trans hk'))
  have hcanonical : ∀ {k : Pubkey} {d : AccountData}, w.data k = d → Canonical rt k d :=
    fun {k d} h => h ▸ hall k
  constructor
  case config => exact fun k k' c c' h h' => hunique (hcanonical h).1 (hcanonical h').1
  case claimAuthority => exact fun k k' c c' h h' => hunique (hcanonical h) (hcanonical h')
  case vault =>
    intro k k' v v' h h' hhash hsalt
    have hkey := hcanonical h
    rw [Canonical, hhash, hsalt] at hkey
    exact hunique hkey (hcanonical h')
  case session =>
    intro k k' s s' h h' hvault hpublic
    have hkey := hcanonical h
    rw [Canonical, hvault, hpublic] at hkey
    exact hunique hkey (hcanonical h')
  case link =>
    intro k k' l l' h h' hsender hid
    have hkey := hcanonical h
    rw [Canonical, hsender, hid] at hkey
    exact hunique hkey (hcanonical h')

theorem canonical_of_run {start : World} {tr : List (Transition World Event)}
    (hgenesis : Genesis start) (hrun : Run (Step rt) start tr w) : ∀ k, Canonical rt k (w.data k) :=
  hrun.invariant (I := fun w => ∀ k, Canonical rt k (w.data k))
    (fun k => canonical_of_not_owned (hgenesis.no_records k))
    fun _ _ _ hall hstep => step_canonical hstep hall

theorem grounded_of_run {start : World} {tr : List (Transition World Event)}
    (hgenesis : Genesis start) (hrun : Run (Step rt) start tr w) : Grounded w :=
  hrun.invariant (I := Grounded) hgenesis.grounded fun _ _ _ hg hstep => hg.step hstep

/-- In every reachable ledger the records form one consistent store. -/
theorem records_consistent {start : World} {tr : List (Transition World Event)}
    (hgenesis : Genesis start) (hrun : Run (Step rt) start tr w) :
    (∀ k, Canonical rt k (w.data k)) ∧ OneOfEach w ∧ Grounded w :=
  ⟨canonical_of_run hgenesis hrun, oneOfEach_of_canonical (canonical_of_run hgenesis hrun),
    grounded_of_run hgenesis hrun⟩

theorem records_consistent_devnet : ∃ tr w link v, Run (Step Devnet.runtime) Devnet.genesis tr w ∧
    w.data Devnet.solLink = .link link ∧ w.data link.senderVault = .vault v := by
  obtain ⟨tr, w, hrun, hw⟩ :=
    Devnet.reached 5 (p := fun _ w => (w.data Devnet.solLink).link?.isSome) (by decide +kernel)
  obtain ⟨link, hlink⟩ := Option.isSome_iff_exists.mp hw
  rw [AccountData.link?_eq_some] at hlink
  obtain ⟨-, -, hgrounded⟩ := records_consistent Devnet.genesis_fresh hrun
  obtain ⟨v, hv⟩ := hgrounded.sender _ _ hlink
  exact ⟨tr, w, link, v, hrun, hlink, hv⟩

/-- The calls after the first succeed too, and both ledgers pass the test. -/
def Devnet.findsLater (n m : ℕ) (p : World → World → Bool) : Bool :=
  match runTransaction runtime (calls.take n) genesis with
  | .ok (_, u) =>
    match runTransaction runtime ((calls.drop n).take m) u with
    | .ok (_, w) => p u w
    | .error _ => false
  | .error _ => false

/-- The same for a run that starts where the first calls left the ledger. -/
theorem Devnet.continued (n m : ℕ) {p : World → World → Bool} (h : findsLater n m p = true) :
    ∃ u tr w, Run (Step runtime) u tr w ∧ p u w = true := by
  unfold findsLater at h
  cases hfirst : runTransaction runtime (calls.take n) genesis with
  | error e =>
    rw [hfirst] at h
    cases h
  | ok first =>
    obtain ⟨_, u⟩ := first
    rw [hfirst] at h
    dsimp only at h
    cases hrest : runTransaction runtime ((calls.drop n).take m) u with
    | error e =>
      rw [hrest] at h
      cases h
    | ok rest =>
      obtain ⟨tr, w⟩ := rest
      rw [hrest] at h
      exact ⟨u, tr, w, run_append_transaction Run.nil hrest, h⟩

/-- A session that funds a link and cancels it has spent its amount for good, under the policy it
was granted. -/
theorem records_evolve_devnet : ∃ u tr w, Run (Step Devnet.runtime) u tr w ∧
    u.data Devnet.session ≠ w.data Devnet.session ∧
    Evolves (u.data Devnet.session) (w.data Devnet.session) := by
  obtain ⟨u, tr, w, hrun, hw⟩ := Devnet.continued 2 2
    (p := fun u w => (u.data Devnet.session).programOwned &&
      decide (u.data Devnet.session ≠ w.data Devnet.session))
    (by decide +kernel)
  obtain ⟨howned, hchanged⟩ := Bool.and_eq_true_iff.mp hw
  exact ⟨u, tr, w, hrun, of_decide_eq_true hchanged, records_evolve hrun howned⟩

end Runs

end VeriAgentPay
