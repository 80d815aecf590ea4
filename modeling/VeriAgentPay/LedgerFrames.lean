import VeriAgentPay.RuntimeServices

/-!
# What one service call does to the ledger, and what it leaves alone

Every successful instruction is a composition of four effects: an account is allocated, a
record is rewritten in place, tokens move, lamports move. A frame lists the records an
effect writes and the token and lamport balances it may lower; frames compose.
-/

namespace VeriAgentPay
open FixedWidth CheckedOutcome

/-- A fresh account holding `d` was allocated at `key`. -/
structure AccountCreated (rt : Runtime) (w w' : World) (payer key : Pubkey) (d : AccountData) :
    Prop where
  fresh : w.data key = .empty
  payer_ne : payer ≠ key
  now_eq : w'.now = w.now
  data_eq : w'.data = Function.update w.data key d
  rent : (rt.minimumBalance d.dataLen).toNat ≤ (w'.lamports key).toNat
  grows : (w.lamports key).toNat ≤ (w'.lamports key).toNat
  others : ∀ k, k ≠ payer → k ≠ key → w'.lamports k = w.lamports k
  funded : w.data payer = .empty ∨ w'.lamports payer = w.lamports payer

/-- `amount` tokens moved between two distinct accounts of one mint. -/
structure TokensMoved (w w' : World) (source destination authority mint : Pubkey) (amount : UInt64)
    (s d : TokenAccount) : Prop where
  now_eq : w'.now = w.now
  lamports_eq : w'.lamports = w.lamports
  source_before : w.data source = .token s
  destination_before : w.data destination = .token d
  authority_eq : s.owner = authority
  mint_eq : s.mint = mint
  destination_mint : d.mint = mint
  enough : amount.toNat ≤ s.amount.toNat
  source_after : w'.data source = .token { s with amount := s.amount - amount }
  destination_after : ∃ r, r.toNat = d.amount.toNat + amount.toNat ∧
    w'.data destination = .token { d with amount := r }
  others : ∀ k, k ≠ source → k ≠ destination → w'.data k = w.data k

/-- `amount` lamports moved out of `source`, which keeps its rent reserve. -/
structure LamportsMoved (rt : Runtime) (w w' : World) (source destination : Pubkey)
    (amount : UInt64) : Prop where
  now_eq : w'.now = w.now
  data_eq : w'.data = w.data
  source_eq : (w.lamports source).toNat = (w'.lamports source).toNat + amount.toNat
  destination_eq : (w'.lamports destination).toNat = (w.lamports destination).toNat + amount.toNat
  reserve : (rt.minimumBalance (w.data source).dataLen).toNat ≤ (w'.lamports source).toNat
  others : ∀ k, k ≠ source → k ≠ destination → w'.lamports k = w.lamports k

section Services

variable {rt : Runtime} {ctx : Context} {w w' : World}

theorem systemTransfer_ok {source destination : Pubkey} {amount : UInt64}
    (h : systemTransfer w source destination amount = .ok w') :
    w.data source = .empty ∧ w'.now = w.now ∧ w'.data = w.data ∧
      (w'.lamports destination).toNat = (w.lamports destination).toNat + amount.toNat ∧
      ∀ k, k ≠ source → k ≠ destination → w'.lamports k = w.lamports k := by
  simp only [systemTransfer, bind_eq_ok, require_eq_ok, orError_eq_ok, pure_eq_ok] at h
  obtain ⟨-, hempty, remaining, -, received, hreceived, rfl⟩ := h
  refine ⟨hempty, rfl, rfl, ?_, ?_⟩
  · simpa using toNat_checkedAdd hreceived
  · intro k hsource hdestination
    simp [hsource, hdestination]

private theorem toNat_le_max_one (a : UInt64) : a.toNat ≤ (max a 1).toNat := by
  simp only [max]
  split
  · rename_i h
    exact UInt64.le_iff_toNat_le.mp h
  · exact le_rfl

theorem fundAccount_ok {payer key : Pubkey} {space : ℕ}
    (h : fundAccount rt w payer key space = .ok w') :
    w'.now = w.now ∧ w'.data = w.data ∧ (rt.minimumBalance space).toNat ≤ (w'.lamports key).toNat ∧
      (w.lamports key).toNat ≤ (w'.lamports key).toNat ∧
      (∀ k, k ≠ payer → k ≠ key → w'.lamports k = w.lamports k) ∧
      (w.data payer = .empty ∨ w'.lamports payer = w.lamports payer) := by
  have hmax := toNat_le_max_one (rt.minimumBalance space)
  simp only [fundAccount] at h
  split at h
  · obtain ⟨hempty, hnow, hdata, hreceived, hothers⟩ := systemTransfer_ok h
    exact ⟨hnow, hdata, by omega, by omega, hothers, .inl hempty⟩
  · split at h
    · obtain ⟨hempty, hnow, hdata, hreceived, hothers⟩ := systemTransfer_ok h
      rw [toNat_saturatingSubU64] at hreceived
      exact ⟨hnow, hdata, by omega, by omega, hothers, .inl hempty⟩
    · rename_i hfull
      obtain rfl := Except.ok.inj h
      rw [gt_iff_lt, UInt64.lt_iff_toNat_lt, toNat_saturatingSubU64, UInt64.toNat_zero] at hfull
      exact ⟨rfl, rfl, by omega, le_rfl, fun _ _ _ => rfl, .inr rfl⟩

theorem createAccount_ok {payer key : Pubkey} {d : AccountData}
    (h : createAccount rt w payer key d = .ok w') : AccountCreated rt w w' payer key d := by
  simp only [createAccount, bind_eq_ok, require_eq_ok, pure_eq_ok] at h
  obtain ⟨-, hne, -, hfresh, w₁, hfund, rfl⟩ := h
  obtain ⟨hnow, hdata, hrent, hgrows, hothers, hfunded⟩ := fundAccount_ok hfund
  exact ⟨hfresh, hne, hnow, by rw [World.setData_data, hdata], hrent, hgrows, hothers, hfunded⟩

theorem initAccount_ok {payer key : Pubkey} {seeds : List Bytes} {contents : UInt8 → AccountData}
    (h : initAccount rt ctx w payer key seeds contents = .ok w') :
    ∃ bump, findProgramAddress rt rt.programId seeds = some (key, bump) ∧ payer ∈ ctx.signers ∧
      AccountCreated rt w w' payer key (contents bump) := by
  simp only [initAccount, requireSigner, bind_eq_ok, require_eq_ok, orError_eq_ok] at h
  obtain ⟨-, hsigner, ⟨address, bump⟩, hfind, -, rfl, h⟩ := h
  exact ⟨bump, hfind, hsigner, createAccount_ok h⟩

theorem createAssociatedToken_ok {payer key wallet mint : Pubkey}
    (h : createAssociatedToken rt ctx w payer key wallet mint = .ok w') :
    associatedTokenAddress rt wallet mint = some key ∧
      AccountCreated rt w w' payer key (.token ⟨mint, wallet, 0, false⟩) := by
  simp only [createAssociatedToken, requireSigner, bind_eq_ok, require_eq_ok] at h
  obtain ⟨-, -, -, haddress, h⟩ := h
  exact ⟨haddress, createAccount_ok h⟩

/-- After `init_if_needed` the account is there, and it was either there before or is new and
empty. -/
theorem createAssociatedTokenIfNeeded_ok {payer key wallet mint : Pubkey}
    (h : createAssociatedTokenIfNeeded rt ctx w payer key wallet mint = .ok w') :
    associatedTokenAddress rt wallet mint = some key ∧
      (AccountCreated rt w w' payer key (.token ⟨mint, wallet, 0, false⟩) ∨
        (w' = w ∧ ∃ t, w.data key = .token t ∧ t.mint = mint ∧ t.owner = wallet)) := by
  unfold createAssociatedTokenIfNeeded at h
  split at h
  · obtain ⟨haddress, hcreated⟩ := createAssociatedToken_ok h
    exact ⟨haddress, .inl hcreated⟩
  · simp only [bind_eq_ok, load_eq_ok, AccountData.token?_eq_some, require_eq_ok, pure_eq_ok] at h
    obtain ⟨t, ht, -, hmint, -, howner, -, haddress, rfl⟩ := h
    exact ⟨haddress, .inr ⟨rfl, t, ht, hmint, howner⟩⟩

@[simp] theorem requireAssociatedToken_eq_ok {key wallet mint : Pubkey} {t : TokenAccount}
    {u : Unit} :
    requireAssociatedToken rt t key wallet mint = .ok u ↔
      t.owner = wallet ∧ associatedTokenAddress rt wallet mint = some key := by
  simp [requireAssociatedToken]

theorem transferCheckedSigned_ok {source mint destination authority : Pubkey}
    {signerSeeds : List Bytes} {bump : UInt8} {amount : UInt64} {decimals : UInt8}
    (hne : source ≠ destination)
    (h : transferCheckedSigned rt w source mint destination authority signerSeeds bump amount
      decimals =
      .ok w') :
    ∃ s d, TokensMoved w w' source destination authority mint amount s d := by
  simp only [transferCheckedSigned, transferChecked, bind_eq_ok, require_eq_ok, load_eq_ok,
    AccountData.token?_eq_some, AccountData.mint?_eq_some, if_neg hne, orError_eq_ok,
    pure_eq_ok] at h
  obtain ⟨-, -, s, hs, d, hd, -, -, -, henough, -, ⟨hmints, hmint⟩, m, -, -, -, -, howner, r,
    hr, rfl⟩ := h
  refine ⟨s, d, rfl, rfl, hs, hd, howner, hmint, hmints ▸ hmint, UInt64.le_iff_toNat_le.mp henough,
    ?_, ?_, ?_⟩
  · simp [hne]
  · exact ⟨r, toNat_checkedAdd hr, by simp⟩
  · intro k hsource hdestination
    simp [hsource, hdestination]

theorem transferProgramLamports_ok {source destination : Pubkey} {amount : UInt64}
    {e : VeriAgentError} (hne : source ≠ destination)
    (h : transferProgramLamports rt w source destination amount e = .ok w') :
    LamportsMoved rt w w' source destination amount := by
  simp only [transferProgramLamports, bind_eq_ok, require_eq_ok, orError_eq_ok, pure_eq_ok] at h
  obtain ⟨remaining, hremaining, -, hreserve, balance, hbalance, rfl⟩ := h
  rw [UInt64.lt_iff_toNat_lt, not_lt] at hreserve
  refine ⟨rfl, rfl, ?_, ?_, ?_, ?_⟩
  · simpa [hne] using toNat_checkedSub hremaining
  · simpa using toNat_checkedAdd hbalance
  · simpa [hne] using hreserve
  · intro k hsource hdestination
    simp [hsource, hdestination]

end Services

/-- No token balance changed. -/
def TokensKept (w w' : World) : Prop := ∀ k, w'.tokenBalance k = w.tokenBalance k

/-- Exactly `amount` tokens went from one address to another. -/
structure TokenFlow (w w' : World) (source destination : Pubkey) (amount : ℕ) : Prop where
  ne : source ≠ destination
  source_eq : w.tokenBalance source = w'.tokenBalance source + amount
  destination_eq : w'.tokenBalance destination = w.tokenBalance destination + amount
  others : ∀ k, k ≠ source → k ≠ destination → w'.tokenBalance k = w.tokenBalance k

/-- Exactly `amount` lamports went from one address to another. -/
structure LamportFlow (w w' : World) (source destination : Pubkey) (amount : ℕ) : Prop where
  ne : source ≠ destination
  source_eq : (w.lamports source).toNat = (w'.lamports source).toNat + amount
  destination_eq : (w'.lamports destination).toNat = (w.lamports destination).toNat + amount

section Flows

variable {rt : Runtime} {w w₁ w' : World} {source destination : Pubkey} {amount : ℕ}

theorem TokenFlow.after_kept (h : TokensKept w w₁)
    (hflow : TokenFlow w₁ w' source destination amount) :
    TokenFlow w w' source destination amount where
  ne := hflow.ne
  source_eq := by rw [← h source, hflow.source_eq]
  destination_eq := by rw [hflow.destination_eq, h destination]
  others k hs hd := by rw [hflow.others k hs hd, h k]

theorem TokenFlow.before_kept (hflow : TokenFlow w w₁ source destination amount)
    (h : TokensKept w₁ w') :
    TokenFlow w w' source destination amount where
  ne := hflow.ne
  source_eq := by rw [h source, hflow.source_eq]
  destination_eq := by rw [h destination, hflow.destination_eq]
  others k hs hd := by rw [h k, hflow.others k hs hd]

theorem TokensKept.refl (w : World) : TokensKept w w := fun _ => rfl

theorem TokensKept.trans (h : TokensKept w w₁) (h' : TokensKept w₁ w') : TokensKept w w' := by
  intro k
  rw [h' k, h k]

/-- Rewriting an account that holds no tokens, as one that holds none. -/
theorem tokensKept_setData {key : Pubkey} {d : AccountData} (hbefore : (w.data key).token? = none)
    (hd : d.token? = none) : TokensKept w (w.setData key d) := by
  intro k
  by_cases hk : k = key
  · subst hk
    have hnone : ∀ {v : World}, (v.data k).token? = none → v.tokenBalance k = 0 := by
      intro v hv
      unfold World.tokenBalance
      split <;> simp_all [AccountData.token?]
    rw [hnone hbefore, hnone (by simpa using hd)]
  · exact World.tokenBalance_congr (by simp [hk])

theorem AccountCreated.at_key {payer key : Pubkey} {d : AccountData}
    (h : AccountCreated rt w w' payer key d) : w'.data key = d := by
  rw [h.data_eq, Function.update_self]

theorem AccountCreated.tokensKept {payer key : Pubkey} {d : AccountData}
    (h : AccountCreated rt w w' payer key d) (hd : ∀ t, d = .token t → t.amount = 0) :
    TokensKept w w' := by
  intro k
  by_cases hk : k = key
  · subst hk
    have hbefore : w.tokenBalance k = 0 := by simp [World.tokenBalance, h.fresh]
    have hafter : w'.tokenBalance k = 0 := by
      unfold World.tokenBalance
      split
      · rename_i t ht
        rw [hd t (by simpa [h.data_eq] using ht), UInt64.toNat_zero]
      · rfl
    rw [hbefore, hafter]
  · exact World.tokenBalance_congr (by simp [h.data_eq, hk])

theorem TokensMoved.flow {authority mint : Pubkey} {amount : UInt64} {s d : TokenAccount}
    (hne : source ≠ destination)
    (h : TokensMoved w w' source destination authority mint amount s d) :
    TokenFlow w w' source destination amount.toNat where
  ne := hne
  source_eq := by
    have hle : amount ≤ s.amount := UInt64.le_iff_toNat_le.mpr h.enough
    rw [World.tokenBalance_of_token h.source_before, World.tokenBalance_of_token h.source_after,
      UInt64.toNat_sub_of_le _ _ hle]
    have := h.enough
    omega
  destination_eq := by
    obtain ⟨r, hr, hafter⟩ := h.destination_after
    rw [World.tokenBalance_of_token h.destination_before, World.tokenBalance_of_token hafter, hr]
  others k hs hd := World.tokenBalance_congr (h.others k hs hd)

theorem LamportsMoved.flow {amount : UInt64} (hne : source ≠ destination)
    (h : LamportsMoved rt w w' source destination amount) :
    LamportFlow w w' source destination amount.toNat where
  ne := hne
  source_eq := h.source_eq
  destination_eq := h.destination_eq

end Flows

/-- What a change of the ledger leaves alone: records outside `writes` stay as they are and
none appears, token accounts keep their mint and owner and only those in `tokenDebits` may
hold less, and of the accounts that hold anything only those in `lamportDebits` may lose
lamports. -/
structure Frame (w w' : World) (writes tokenDebits lamportDebits : List Pubkey) : Prop where
  now_eq : w'.now = w.now
  kept : ∀ k, k ∉ writes → w.data k ≠ .empty → (w.data k).token? = none → w'.data k = w.data k
  fresh : ∀ k, k ∉ writes → (w'.data k).programOwned = true → w'.data k = w.data k
  token : ∀ k t, w.data k = .token t →
    ∃ t', w'.data k = .token t' ∧ t'.mint = t.mint ∧ t'.owner = t.owner ∧
    (k ∉ tokenDebits → t.amount.toNat ≤ t'.amount.toNat)
  occupied : ∀ k, w.data k ≠ .empty → w'.data k ≠ .empty
  foreign : ∀ k, w.data k = .foreign → w'.data k = .foreign
  lamports : ∀ k, w.data k ≠ .empty → k ∉ lamportDebits →
    (w.lamports k).toNat ≤ (w'.lamports k).toNat

namespace Frame

variable {w w₁ w' : World} {writes writes' tokenDebits tokenDebits' lamportDebits lamportDebits' :
  List Pubkey}

theorem refl (w : World) : Frame w w [] [] [] where
  now_eq := rfl
  kept _ _ _ _ := rfl
  fresh _ _ _ := rfl
  token _ t h := ⟨t, h, rfl, rfl, fun _ => le_rfl⟩
  occupied _ h := h
  foreign _ h := h
  lamports _ _ _ := le_rfl

theorem trans (h : Frame w w₁ writes tokenDebits lamportDebits)
    (h' : Frame w₁ w' writes' tokenDebits' lamportDebits') :
    Frame w w' (writes ++ writes') (tokenDebits ++ tokenDebits')
      (lamportDebits ++ lamportDebits') where
  now_eq := h'.now_eq.trans h.now_eq
  kept := by
    intro k hk hne htoken
    rw [List.mem_append, not_or] at hk
    have hfirst := h.kept k hk.1 hne htoken
    rw [← hfirst] at hne htoken
    exact (h'.kept k hk.2 hne htoken).trans hfirst
  fresh := by
    intro k hk howned
    rw [List.mem_append, not_or] at hk
    have hlast := h'.fresh k hk.2 howned
    rw [hlast] at howned
    exact hlast.trans (h.fresh k hk.1 howned)
  token := by
    intro k t ht
    obtain ⟨t₁, ht₁, hmint₁, howner₁, hle₁⟩ := h.token k t ht
    obtain ⟨t', ht', hmint', howner', hle'⟩ := h'.token k t₁ ht₁
    refine ⟨t', ht', hmint'.trans hmint₁, howner'.trans howner₁, ?_⟩
    intro hk
    rw [List.mem_append, not_or] at hk
    exact (hle₁ hk.1).trans (hle' hk.2)
  occupied := by
    intro k hne
    exact h'.occupied k (h.occupied k hne)
  foreign := by
    intro k hforeign
    exact h'.foreign k (h.foreign k hforeign)
  lamports := by
    intro k hne hk
    rw [List.mem_append, not_or] at hk
    exact (h.lamports k hne hk.1).trans (h'.lamports k (h.occupied k hne) hk.2)

/-- A larger list of exceptions is a weaker frame. -/
theorem mono (h : Frame w w' writes tokenDebits lamportDebits) (hw : writes ⊆ writes')
    (ht : tokenDebits ⊆ tokenDebits') (hl : lamportDebits ⊆ lamportDebits') :
    Frame w w' writes' tokenDebits' lamportDebits' where
  now_eq := h.now_eq
  kept k hk := h.kept k (fun hmem => hk (hw hmem))
  fresh k hk := h.fresh k (fun hmem => hk (hw hmem))
  token k t htoken := by
    obtain ⟨t', ht', hmint, howner, hle⟩ := h.token k t htoken
    exact ⟨t', ht', hmint, howner, fun hk => hle (fun hmem => hk (ht hmem))⟩
  occupied := h.occupied
  foreign := h.foreign
  lamports k hne hk := h.lamports k hne (fun hmem => hk (hl hmem))

/-- Balances outside the debits do not drop. -/
theorem tokenBalance_le (h : Frame w w' writes tokenDebits lamportDebits) {k : Pubkey}
    (hk : k ∉ tokenDebits) : w.tokenBalance k ≤ w'.tokenBalance k := by
  cases hdata : w.data k with
  | token t =>
    obtain ⟨t', ht', -, -, hle⟩ := h.token k t hdata
    rw [World.tokenBalance_of_token hdata, World.tokenBalance_of_token ht']
    exact hle hk
  | _ => simp [World.tokenBalance, hdata]

/-- A record outside the writes is still there, unchanged. -/
theorem record_kept (h : Frame w w' writes tokenDebits lamportDebits) {k : Pubkey} (hk : k ∉ writes)
    (howned : (w.data k).programOwned = true) : w'.data k = w.data k := by
  refine h.kept k hk ?_ ?_
  · intro hempty
    simp [hempty, AccountData.programOwned] at howned
  · cases hdata : w.data k <;> simp_all [AccountData.programOwned, AccountData.token?]

end Frame

section PrimitiveFrames

variable {rt : Runtime} {w w' : World}

theorem AccountCreated.frame {payer key : Pubkey} {d : AccountData}
    (h : AccountCreated rt w w' payer key d) (hd : d ≠ .empty) : Frame w w' [key] [] [] where
  now_eq := h.now_eq
  kept k hk _ _ := by simp [h.data_eq, List.mem_singleton.not.mp hk]
  fresh k hk _ := by simp [h.data_eq, List.mem_singleton.not.mp hk]
  token k t ht := by
    have hne : k ≠ key := by
      rintro rfl
      simp [h.fresh] at ht
    exact ⟨t, by simpa [h.data_eq, hne] using ht, rfl, rfl, fun _ => le_rfl⟩
  occupied k hne := by
    by_cases hk : k = key
    · simpa [h.data_eq, hk] using hd
    · simpa [h.data_eq, hk] using hne
  foreign k hforeign := by
    have hne : k ≠ key := by
      rintro rfl
      simp [h.fresh] at hforeign
    simpa [h.data_eq, hne] using hforeign
  lamports k hne _ := by
    have hkey : k ≠ key := by
      rintro rfl
      exact hne h.fresh
    by_cases hpayer : k = payer
    · subst hpayer
      rcases h.funded with hempty | heq
      · exact absurd hempty hne
      · rw [heq]
    · rw [h.others k hpayer hkey]

/-- A new token account is no record of this program. -/
theorem AccountCreated.frame_token {payer key : Pubkey} {t : TokenAccount}
    (h : AccountCreated rt w w' payer key (.token t)) : Frame w w' [] [] [] where
  now_eq := h.now_eq
  kept k _ hne _ := by
    have hk : k ≠ key := by
      rintro rfl
      exact hne h.fresh
    simp [h.data_eq, hk]
  fresh k _ howned := by
    have hk : k ≠ key := by
      rintro rfl
      simp [h.data_eq, AccountData.programOwned] at howned
    simp [h.data_eq, hk]
  token := (h.frame (by simp)).token
  occupied := (h.frame (by simp)).occupied
  foreign := (h.frame (by simp)).foreign
  lamports := (h.frame (by simp)).lamports

theorem TokensMoved.frame {source destination authority mint : Pubkey} {amount : UInt64}
    {s d : TokenAccount} (h : TokensMoved w w' source destination authority mint amount s d) :
    Frame w w' [] [source] [] where
  now_eq := h.now_eq
  kept k _ _ htoken := by
    have hs : k ≠ source := by
      rintro rfl
      simp [h.source_before, AccountData.token?] at htoken
    have hd : k ≠ destination := by
      rintro rfl
      simp [h.destination_before, AccountData.token?] at htoken
    exact h.others k hs hd
  fresh k _ howned := by
    have hs : k ≠ source := by
      rintro rfl
      simp [h.source_after, AccountData.programOwned] at howned
    have hd : k ≠ destination := by
      rintro rfl
      obtain ⟨r, -, hr⟩ := h.destination_after
      simp [hr, AccountData.programOwned] at howned
    exact h.others k hs hd
  token k t ht := by
    by_cases hd : k = destination
    · subst hd
      obtain ⟨r, hr, hafter⟩ := h.destination_after
      obtain rfl : d = t := by simpa [h.destination_before] using ht
      exact ⟨_, hafter, rfl, rfl, fun _ => by simp only; omega⟩
    · by_cases hs : k = source
      · subst hs
        obtain rfl : s = t := by simpa [h.source_before] using ht
        exact ⟨_, h.source_after, rfl, rfl, fun hk => by simp at hk⟩
      · exact ⟨t, by rw [h.others k hs hd, ht], rfl, rfl, fun _ => le_rfl⟩
  occupied k hne := by
    by_cases hd : k = destination
    · obtain ⟨r, -, hr⟩ := h.destination_after
      simp [hd, hr]
    · by_cases hs : k = source
      · simp [hs, h.source_after]
      · rwa [h.others k hs hd]
  foreign k hforeign := by
    have hs : k ≠ source := by
      rintro rfl
      simp [h.source_before] at hforeign
    have hd : k ≠ destination := by
      rintro rfl
      simp [h.destination_before] at hforeign
    rw [h.others k hs hd, hforeign]
  lamports k _ _ := by rw [h.lamports_eq]

theorem LamportsMoved.frame {source destination : Pubkey} {amount : UInt64}
    (h : LamportsMoved rt w w' source destination amount) : Frame w w' [] [] [source] where
  now_eq := h.now_eq
  kept k _ _ _ := by rw [h.data_eq]
  fresh k _ _ := by rw [h.data_eq]
  token k t ht := ⟨t, by rw [h.data_eq, ht], rfl, rfl, fun _ => le_rfl⟩
  occupied k hne := by rwa [h.data_eq]
  foreign k hforeign := by rwa [h.data_eq]
  lamports k _ hk := by
    have hs : k ≠ source := by simpa using hk
    by_cases hd : k = destination
    · subst hd
      have := h.destination_eq
      omega
    · rw [h.others k hs hd]

/-- A record rewritten in place. -/
theorem frame_setData {key : Pubkey} {d : AccountData} (hbefore : (w.data key).programOwned = true)
    (hd : d ≠ .empty) : Frame w (w.setData key d) [key] [] [] where
  now_eq := rfl
  kept k hk _ _ := by simp [List.mem_singleton.not.mp hk]
  fresh k hk _ := by simp [List.mem_singleton.not.mp hk]
  token k t ht := by
    have hne : k ≠ key := by
      rintro rfl
      simp [ht, AccountData.programOwned] at hbefore
    exact ⟨t, by simpa [hne] using ht, rfl, rfl, fun _ => le_rfl⟩
  occupied k hne := by
    by_cases hk : k = key
    · simpa [hk] using hd
    · simpa [hk] using hne
  foreign k hforeign := by
    have hne : k ≠ key := by
      rintro rfl
      simp [hforeign, AccountData.programOwned] at hbefore
    simpa [hne] using hforeign
  lamports k _ _ := le_rfl

end PrimitiveFrames

/-- Accounts outside a list of keys keep their contents and their lamports. -/
def Confined (w w' : World) (keys : List Pubkey) : Prop :=
  ∀ k, k ∉ keys → w'.data k = w.data k ∧ w'.lamports k = w.lamports k

namespace Confined

variable {rt : Runtime} {w w₁ w' : World} {keys keys' : List Pubkey}

theorem refl (w : World) : Confined w w [] := fun _ _ => ⟨rfl, rfl⟩

theorem trans (h : Confined w w₁ keys) (h' : Confined w₁ w' keys') :
    Confined w w' (keys ++ keys') := by
  intro k hk
  rw [List.mem_append, not_or] at hk
  exact ⟨(h' k hk.2).1.trans (h k hk.1).1, (h' k hk.2).2.trans (h k hk.1).2⟩

theorem mono (h : Confined w w' keys) (hsub : keys ⊆ keys') : Confined w w' keys' := by
  intro k hk
  exact h k (fun hmem => hk (hsub hmem))

theorem setData (w : World) (key : Pubkey) (d : AccountData) :
    Confined w (w.setData key d) [key] := by
  intro k hk
  simp [List.mem_singleton.not.mp hk]

theorem of_accountCreated {payer key : Pubkey} {d : AccountData}
    (h : AccountCreated rt w w' payer key d) :
    Confined w w' [payer, key] := by
  intro k hk
  rw [List.mem_pair, not_or] at hk
  exact ⟨by rw [h.data_eq, Function.update_of_ne hk.2], h.others k hk.1 hk.2⟩

theorem of_createAssociatedTokenIfNeeded {ctx : Context} {payer key wallet mint : Pubkey}
    (h : createAssociatedTokenIfNeeded rt ctx w payer key wallet mint = .ok w') :
    Confined w w' [payer, key] := by
  obtain ⟨-, hcreated | ⟨rfl, -⟩⟩ := createAssociatedTokenIfNeeded_ok h
  · exact of_accountCreated hcreated
  · exact (refl w').mono (by simp)

theorem of_tokensMoved {source destination authority mint : Pubkey} {amount : UInt64}
    {s d : TokenAccount} (h : TokensMoved w w' source destination authority mint amount s d) :
    Confined w w' [source, destination] := by
  intro k hk
  rw [List.mem_pair, not_or] at hk
  exact ⟨h.others k hk.1 hk.2, by rw [h.lamports_eq]⟩

theorem of_lamportsMoved {source destination : Pubkey} {amount : UInt64}
    (h : LamportsMoved rt w w' source destination amount) :
    Confined w w' [source, destination] := by
  intro k hk
  rw [List.mem_pair, not_or] at hk
  exact ⟨by rw [h.data_eq], h.others k hk.1 hk.2⟩

end Confined

end VeriAgentPay
