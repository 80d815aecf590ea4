import VeriAgentPay.IdentityServices

/-!
# Who holds a platform identity

An identity is a platform with an id on it. A row of the link table gives it to a user, and so
does the user's own column for the platform. `OneOwner` says that the two never name different
users; each statement of the identity service keeps it under a condition on the rows it writes.
-/

namespace VeriAgentPay.Identity
open CheckedOutcome UnreliableStores IdentityService
open Backend (Failure)

def NodeOf (t : Tables) (p i u : String) : Prop :=
  ∃ node ∈ t.nodes, node.key = (p, i) ∧ node.userId = u

def ColumnOf (t : Tables) (c : Column) (i u : String) : Prop :=
  ∃ row ∈ t.users, c.get row = some i ∧ row.id = u

def Column.platform : Column → String
  | telegramId => "telegram"
  | whatsappId => "whatsapp"
  | discordId => "discord"
  | slackId => "slack"

theorem Column.platform_injective {c c' : Column} (h : c.platform = c'.platform) : c = c' := by
  cases c <;> cases c' <;> first | rfl | exact absurd h (by decide)

/-- The identity is the user's by the link table or by the column of its platform. -/
def Held (t : Tables) (p i u : String) : Prop :=
  NodeOf t p i u ∨ ∃ c : Column, c.platform = p ∧ ColumnOf t c i u

/-- The keys of the tables, and no identity with two users. -/
structure OneOwner (t : Tables) : Prop where
  ids : ∀ row ∈ t.users, ∀ row' ∈ t.users, row.id = row'.id → row = row'
  nodes : ∀ p i u v, NodeOf t p i u → NodeOf t p i v → u = v
  columns : ∀ c i u v, ColumnOf t c i u → ColumnOf t c i v → u = v
  owners : ∀ p i u, NodeOf t p i u → ∃ row ∈ t.users, row.id = u
  apart : ∀ (c : Column) i u v, NodeOf t c.platform i u → ColumnOf t c i v → u = v

theorem OneOwner.held {t : Tables} (h : OneOwner t) {p i u v : String} (hu : Held t p i u)
    (hv : Held t p i v) :
    u = v := by
  rcases hu with hu | ⟨c, rfl, hu⟩
  · rcases hv with hv | ⟨c, rfl, hv⟩
    · exact h.nodes p i u v hu hv
    · exact h.apart c i u v hu hv
  · rcases hv with hv | ⟨c', hc', hv⟩
    · exact (h.apart c i v u hv hu).symm
    · obtain rfl := Column.platform_injective hc'
      exact h.columns c' i u v hu hv

/-- A user has one value in a column. -/
theorem OneOwner.value {t : Tables} (h : OneOwner t) {c : Column} {i j u : String}
    (hi : ColumnOf t c i u) (hj : ColumnOf t c j u) : i = j := by
  obtain ⟨row, hrow, hget, hid⟩ := hi
  obtain ⟨row', hrow', hget', hid'⟩ := hj
  obtain rfl := h.ids row hrow row' hrow' (hid.trans hid'.symm)
  exact Option.some.inj (hget.symm.trans hget')

/-- The column of `u` for the platform has nothing of `H`, or the new id, or an id that a row of the
link table gives to `u` as well. -/
def Backed (H : String → String → String → Prop) (t : Tables) (u p i : String) : Prop :=
  ∀ (c : Column) r, c.platform = p → ColumnOf t c r u → H p r u → r = i ∨ NodeOf t p r u

section Statements

variable {t t' : Tables} {p i u : String}

theorem upsertNode_effect {update : SocialNode → SocialNode} {create : SocialNode}
    {k : String × String} {v : String} (h : t.upsertNode p i update create = .ok t')
    (hupdate : ∀ node ∈ t.nodes, node.key = (p, i) → (update node).key = k ∧
      (update node).userId = v)
    (hcreate : create.key = k ∧ create.userId = v) :
    t'.users = t.users ∧ (∃ row ∈ t.users, row.id = v) ∧
      (∀ q j w, NodeOf t' q j w ↔ (q, j) = k ∧ w = v ∨ (q, j) ≠ (p, i) ∧ NodeOf t q j w) ∧
      (k ≠ (p, i) → ∀ w, ¬NodeOf t k.1 k.2 w) := by
  unfold Tables.upsertNode at h
  cases hfind : t.nodes.find? (·.key = (p, i)) with
  | some node =>
    have hkey : node.key = (p, i) := by simpa using List.find?_some hfind
    have hnode : node ∈ t.nodes := List.mem_of_find?_eq_some hfind
    simp only [hfind, bind_eq_ok, require_eq_ok, pure_eq_ok] at h
    obtain ⟨-, howner, -, hunique, rfl⟩ := h
    obtain ⟨hk, hv⟩ := hupdate node hnode hkey
    refine ⟨rfl, ?_, ?_, ?_⟩
    · obtain ⟨row, hrow, hid⟩ := List.any_eq_true.mp howner
      exact ⟨row, hrow, by simpa [hv] using hid⟩
    · intro q j w
      constructor
      · rintro ⟨row', hrow', hq, hw⟩
        obtain ⟨row, hrow, rfl⟩ := List.mem_map.mp hrow'
        by_cases hr : row.key = node.key
        · rw [if_pos hr] at hq hw
          obtain ⟨hrk, hrv⟩ := hupdate row hrow (hr.trans hkey)
          exact .inl ⟨hq.symm.trans hrk, hw.symm.trans hrv⟩
        · rw [if_neg hr] at hq hw
          exact .inr ⟨by rw [← hq, ← hkey]; exact hr, row, hrow, hq, hw⟩
      · rintro (⟨hq, rfl⟩ | ⟨hne, row, hrow, hq, hw⟩)
        · exact ⟨update node, List.mem_map.mpr ⟨node, hnode, by simp⟩, hk.trans hq.symm, hv⟩
        · refine ⟨row, List.mem_map.mpr ⟨row, hrow, ?_⟩, hq, hw⟩
          rw [if_neg]
          rw [hq, hkey]
          exact hne
    · rintro hne w ⟨row, hrow, hrk, -⟩
      refine hunique (List.any_eq_true.mpr ⟨row, hrow, ?_⟩)
      have hrk : row.key = k := hrk
      simpa [hrk, hk, hkey] using hne
  | none =>
    have hnone : ∀ row ∈ t.nodes, row.key ≠ (p, i) := by simpa using hfind
    simp only [hfind, bind_eq_ok, require_eq_ok, pure_eq_ok] at h
    obtain ⟨-, howner, -, hunique, rfl⟩ := h
    refine ⟨rfl, ?_, ?_, ?_⟩
    · obtain ⟨row, hrow, hid⟩ := List.any_eq_true.mp howner
      exact ⟨row, hrow, by simpa [hcreate.2] using hid⟩
    · intro q j w
      constructor
      · rintro ⟨row, hrow, hq, hw⟩
        rcases List.mem_append.mp hrow with hrow | hrow
        · exact .inr ⟨fun heq => hnone row hrow (hq.trans heq), row, hrow, hq, hw⟩
        · obtain rfl := List.mem_singleton.mp hrow
          exact .inl ⟨hq.symm.trans hcreate.1, hw.symm.trans hcreate.2⟩
      · rintro (⟨hq, rfl⟩ | ⟨-, row, hrow, hq, hw⟩)
        · exact ⟨create, List.mem_append_right _ (List.mem_singleton_self _),
            hcreate.1.trans hq.symm, hcreate.2⟩
        · exact ⟨row, List.mem_append_left _ hrow, hq, hw⟩
    · rintro - w ⟨row, hrow, hrk, -⟩
      have hrk : row.key = k := hrk
      exact hunique (List.any_eq_true.mpr ⟨row, hrow, by simp [hrk, hcreate.1]⟩)

/-- A row that the update of `u` would clash with refuses it. -/
theorem updateUser_effect {data : User → User}
    (hids : ∀ row ∈ t.users, ∀ row' ∈ t.users, row.id = row'.id → row = row')
    (h : t.updateUser u data = .ok t') :
    t'.nodes = t.nodes ∧ ∃ row ∈ t.users, row.id = u ∧
      (∀ other ∈ t.users, other.id ≠ u → ¬(data row).clashes other) ∧
      ∀ row', row' ∈ t'.users ↔ row' = data row ∨ row' ∈ t.users ∧ row'.id ≠ u := by
  simp only [Tables.updateUser, bind_eq_ok, orError_eq_ok, require_eq_ok, pure_eq_ok] at h
  obtain ⟨row, hfind, -, hclash, rfl⟩ := h
  have hrow : row ∈ t.users := List.mem_of_find?_eq_some hfind
  have hid : row.id = u := by simpa using List.find?_some hfind
  refine ⟨rfl, row, hrow, hid, ?_, ?_⟩
  · intro other hother hne hclashes
    exact hclash (List.any_eq_true.mpr ⟨other, hother, by simp [hne, hclashes]⟩)
  · intro row'
    constructor
    · intro hmem
      obtain ⟨old, hold, rfl⟩ := List.mem_map.mp hmem
      by_cases hu : old.id = u
      · rw [if_pos hu, hids old hold row hrow (hu.trans hid.symm)]
        exact .inl rfl
      · rw [if_neg hu]
        exact .inr ⟨hold, hu⟩
    · rintro (rfl | ⟨hmem, hne⟩)
      · exact List.mem_map.mpr ⟨row, hrow, if_pos hid⟩
      · exact List.mem_map.mpr ⟨row', hmem, if_neg hne⟩

theorem createUser_effect {user : User} (h : t.createUser user = .ok t') :
    t'.nodes = t.nodes ∧ (∀ other ∈ t.users, ¬user.clashes other) ∧
      ∀ row', row' ∈ t'.users ↔ row' = user ∨ row' ∈ t.users := by
  simp only [Tables.createUser, bind_eq_ok, require_eq_ok, pure_eq_ok] at h
  obtain ⟨-, hclash, rfl⟩ := h
  refine ⟨rfl,
    fun other hother hclashes => hclash (List.any_eq_true.mpr ⟨other, hother, hclashes⟩), ?_⟩
  intro row'
  simp [or_comm]

theorem clashes_of_column {row other : User} {c : Column} (h : c.get row = some i)
    (h' : c.get other = some i) :
    row.clashes other := by
  cases c <;> simp_all [User.clashes, Column.get, sameValue]

theorem clashes_of_id {row other : User} (h : row.id = other.id) : row.clashes other := by
  simp [User.clashes, h]

/-- The columns and the ids after an update of one row. -/
theorem columns_updateUser {data : User → User} (hone : OneOwner t)
    (hid : ∀ row, (data row).id = row.id) (h : t.updateUser u data = .ok t') :
    t'.nodes = t.nodes ∧ ∃ row ∈ t.users, row.id = u ∧
      (∀ other ∈ t.users, other.id ≠ u → ¬(data row).clashes other) ∧
      (∀ row ∈ t'.users, ∀ row' ∈ t'.users, row.id = row'.id → row = row') ∧
      (∀ v, (∃ row ∈ t.users, row.id = v) → ∃ row ∈ t'.users, row.id = v) ∧
      ∀ c j v, ColumnOf t' c j v ↔ v = u ∧ c.get (data row) = some j ∨ v ≠ u ∧
        ColumnOf t c j v := by
  obtain ⟨hnodes, row, hrow, rfl, hclash, hmem⟩ := updateUser_effect hone.ids h
  refine ⟨hnodes, row, hrow, rfl, hclash, ?_, ?_, ?_⟩
  · intro a ha b hb hab
    rcases (hmem a).mp ha with rfl | ⟨ha, hane⟩
    · rcases (hmem b).mp hb with rfl | ⟨hb, hbne⟩
      · rfl
      · exact absurd (hab.symm.trans (hid row)) hbne
    · rcases (hmem b).mp hb with rfl | ⟨hb, hbne⟩
      · exact absurd (hab.trans (hid row)) hane
      · exact hone.ids a ha b hb hab
  · rintro v ⟨old, hold, rfl⟩
    by_cases hu : old.id = row.id
    · exact ⟨data row, (hmem _).mpr (.inl rfl), (hid row).trans hu.symm⟩
    · exact ⟨old, (hmem _).mpr (.inr ⟨hold, hu⟩), rfl⟩
  · intro c j v
    constructor
    · rintro ⟨row', hrow', hget, rfl⟩
      rcases (hmem row').mp hrow' with rfl | ⟨hold, hne⟩
      · exact .inl ⟨hid row, hget⟩
      · exact .inr ⟨hne, row', hold, hget, rfl⟩
    · rintro (⟨rfl, hget⟩ | ⟨hne, row', hold, hget, rfl⟩)
      · exact ⟨data row, (hmem _).mpr (.inl rfl), hget, hid row⟩
      · exact ⟨row', (hmem _).mpr (.inr ⟨hold, hne⟩), hget, rfl⟩

theorem NodeOf_congr (h : t'.nodes = t.nodes) {v : String} : NodeOf t' p i v ↔ NodeOf t p i v := by
  unfold NodeOf
  rw [h]

theorem ColumnOf_congr (h : t'.users = t.users) {c : Column} {v : String} :
    ColumnOf t' c i v ↔ ColumnOf t c i v := by
  unfold ColumnOf
  rw [h]

end Statements

/-- No identity has two users, and what `H` says is held. -/
structure Carries (H : String → String → String → Prop) (t : Tables) : Prop where
  one : OneOwner t
  carried : ∀ q j w, H q j w → Held t q j w

/-- Furthermore `u` may take the identity: nobody else has it, and its column loses nothing of
`H`. -/
structure Takes (H : String → String → String → Prop) (u p i : String) (t : Tables) :
    Prop extends Carries H t where
  free : ∀ v, Held t p i v → v = u
  backed : Backed H t u p i

section Steps

variable {H : String → String → String → Prop} {t t' : Tables} {u p i : String}

theorem Held_congr (hnodes : ∀ q j w, NodeOf t' q j w ↔ NodeOf t q j w)
    (hcolumns : ∀ c j w, ColumnOf t' c j w ↔ ColumnOf t c j w) (q j w : String) :
    Held t' q j w ↔ Held t q j w := by
  simp only [Held, hnodes, hcolumns]

/-- Changes that touch neither the link table nor a column. -/
theorem Carries.of_same (h : Carries H t)
    (hids : ∀ row ∈ t'.users, ∀ row' ∈ t'.users, row.id = row'.id → row = row')
    (husers : ∀ v, (∃ row ∈ t.users, row.id = v) → ∃ row ∈ t'.users, row.id = v)
    (hnodes : ∀ q j w, NodeOf t' q j w ↔ NodeOf t q j w)
    (hcolumns : ∀ c j w, ColumnOf t' c j w ↔ ColumnOf t c j w) :
    Carries H t' := by
  refine ⟨⟨hids, ?_, ?_, ?_, ?_⟩, ?_⟩
  · intro q j w w' hw hw'
    exact h.one.nodes q j w w' ((hnodes ..).mp hw) ((hnodes ..).mp hw')
  · intro c j w w' hw hw'
    exact h.one.columns c j w w' ((hcolumns ..).mp hw) ((hcolumns ..).mp hw')
  · intro q j w hw
    exact husers w (h.one.owners q j w ((hnodes ..).mp hw))
  · intro c j w w' hw hw'
    exact h.one.apart c j w w' ((hnodes ..).mp hw) ((hcolumns ..).mp hw')
  · intro q j w hw
    exact (Held_congr hnodes hcolumns q j w).mpr (h.carried q j w hw)

theorem Takes.of_same (h : Takes H u p i t)
    (hids : ∀ row ∈ t'.users, ∀ row' ∈ t'.users, row.id = row'.id → row = row')
    (husers : ∀ v, (∃ row ∈ t.users, row.id = v) → ∃ row ∈ t'.users, row.id = v)
    (hnodes : ∀ q j w, NodeOf t' q j w ↔ NodeOf t q j w)
    (hcolumns : ∀ c j w, ColumnOf t' c j w ↔ ColumnOf t c j w) :
    Takes H u p i t' := by
  refine ⟨h.toCarries.of_same hids husers hnodes hcolumns, ?_, ?_⟩
  · intro v hv
    exact h.free v ((Held_congr hnodes hcolumns p i v).mp hv)
  · intro c r hc hr hH
    exact (h.backed c r hc ((hcolumns ..).mp hr) hH).imp_right (hnodes ..).mpr

/-- Tables with the same rows. -/
theorem Carries.of_rows (h : Carries H t) (husers : t'.users = t.users)
    (hnodes : t'.nodes = t.nodes) : Carries H t' :=
  h.of_same (by rw [husers]; exact h.one.ids) (fun _ hv => by rw [husers]; exact hv)
    (fun _ _ _ => NodeOf_congr hnodes)
    fun _ _ _ => ColumnOf_congr husers

theorem Takes.of_rows (h : Takes H u p i t) (husers : t'.users = t.users)
    (hnodes : t'.nodes = t.nodes) :
    Takes H u p i t' :=
  h.of_same (by rw [husers]; exact h.one.ids) (fun _ hv => by rw [husers]; exact hv)
    (fun _ _ _ => NodeOf_congr hnodes)
    fun _ _ _ => ColumnOf_congr husers

/-- An update that leaves the columns alone. -/
theorem Takes.updateUser (h : Takes H u p i t) {v : String} {data : User → User}
    (hid : ∀ row, (data row).id = row.id)
    (hcolumn : ∀ row (c : Column), c.get (data row) = c.get row)
    (hwrite : t.updateUser v data = .ok t') :
    Takes H u p i t' := by
  obtain ⟨hnodes, row, hrow, rfl, -, hids, husers, hcolumns⟩ := columns_updateUser h.one hid hwrite
  refine h.of_same hids husers (fun _ _ _ => NodeOf_congr hnodes) ?_
  intro c j w
  rw [hcolumns, hcolumn]
  constructor
  · rintro (⟨rfl, hget⟩ | ⟨-, hw⟩)
    · exact ⟨row, hrow, hget, rfl⟩
    · exact hw
  · intro hw
    by_cases hwu : w = row.id
    · obtain ⟨row', hrow', hget, hid'⟩ := hw
      obtain rfl := h.one.ids row' hrow' row hrow (hid'.trans hwu)
      exact .inl ⟨hwu, hget⟩
    · exact .inr ⟨hwu, hw⟩

/-- The row of the link table is written for the user who may have it. -/
theorem Takes.upsertNode (h : Takes H u p i t) {update : SocialNode → SocialNode}
    {create : SocialNode} (hwrite : t.upsertNode p i update create = .ok t')
    (hupdate : ∀ node ∈ t.nodes, node.key = (p, i) → (update node).key = (p, i) ∧
      (update node).userId = u)
    (hcreate : create.key = (p, i) ∧ create.userId = u) : Takes H u p i t' := by
  obtain ⟨husers, howner, hnodes, -⟩ := upsertNode_effect hwrite hupdate hcreate
  have hcolumns : ∀ c j w, ColumnOf t' c j w ↔ ColumnOf t c j w :=
    fun c j w => ColumnOf_congr husers
  have hnode : ∀ q j w, NodeOf t q j w → NodeOf t' q j w := by
    intro q j w hw
    by_cases hkey : (q, j) = (p, i)
    · obtain ⟨rfl, rfl⟩ := Prod.mk.inj hkey
      exact (hnodes q j w).mpr (.inl ⟨rfl, h.free w (.inl hw)⟩)
    · exact (hnodes q j w).mpr (.inr ⟨hkey, hw⟩)
  refine ⟨⟨⟨by rw [husers]; exact h.one.ids, ?_, ?_, ?_, ?_⟩, ?_⟩, ?_, ?_⟩
  · intro q j w w' hw hw'
    rcases (hnodes q j w).mp hw with ⟨hkey, rfl⟩ | ⟨hkey, hw⟩
    · rcases (hnodes q j w').mp hw' with ⟨-, rfl⟩ | ⟨hne, -⟩
      · rfl
      · exact absurd hkey hne
    · rcases (hnodes q j w').mp hw' with ⟨heq, -⟩ | ⟨-, hw'⟩
      · exact absurd heq hkey
      · exact h.one.nodes q j w w' hw hw'
  · intro c j w w' hw hw'
    exact h.one.columns c j w w' ((hcolumns ..).mp hw) ((hcolumns ..).mp hw')
  · intro q j w hw
    rw [husers]
    rcases (hnodes q j w).mp hw with ⟨-, rfl⟩ | ⟨-, hw⟩
    · exact howner
    · exact h.one.owners q j w hw
  · intro c j w w' hw hw'
    have hw' := (hcolumns ..).mp hw'
    rcases (hnodes _ j w).mp hw with ⟨hkey, rfl⟩ | ⟨-, hw⟩
    · obtain ⟨hp, rfl⟩ := Prod.mk.inj hkey
      exact (h.free w' (.inr ⟨c, hp, hw'⟩)).symm
    · exact h.one.apart c j w w' hw hw'
  · intro q j w hw
    rcases h.carried q j w hw with hw | ⟨c, hc, hw⟩
    · exact .inl (hnode q j w hw)
    · exact .inr ⟨c, hc, (hcolumns ..).mpr hw⟩
  · rintro v (hv | ⟨c, hc, hv⟩)
    · rcases (hnodes p i v).mp hv with ⟨-, hv⟩ | ⟨hne, -⟩
      · exact hv
      · exact absurd rfl hne
    · exact h.free v (.inr ⟨c, hc, (hcolumns ..).mp hv⟩)
  · intro c r hc hr
    exact fun hH => (h.backed c r hc ((hcolumns ..).mp hr) hH).imp_right (hnode p r u)

/-- The column is written: the unique index refuses an id that another row has in it. -/
theorem takes_of_column {c₀ : Column} {data : User → User} (hone : OneOwner t)
    (hcarried : ∀ q j w, H q j w → Held t q j w) (hfree : ∀ v, NodeOf t c₀.platform i v → v = u)
    (hbacked : Backed H t u c₀.platform i) (hid : ∀ row, (data row).id = row.id)
    (hdata : ∀ row ∈ t.users, row.id = u → ∀ c : Column, c.get (data row) = if c = c₀ then some i
      else c.get row)
    (hwrite : t.updateUser u data = .ok t') : Takes H u c₀.platform i t' := by
  obtain ⟨hnodes, row, hrow, hrowid, hclash, hids, husers, hcolumns⟩ :=
    columns_updateUser hone hid hwrite
  have hnode : ∀ q j w, NodeOf t' q j w ↔ NodeOf t q j w := fun q j w => NodeOf_congr hnodes
  have hvalue := hdata row hrow hrowid
  -- another row does not have the id in this column, or the update would have been refused
  have hother : ∀ v, v ≠ u → ¬ColumnOf t c₀ i v := by
    rintro v hv ⟨other, hmem, hget, rfl⟩
    exact hclash other hmem hv (clashes_of_column (c := c₀) (by rw [hvalue c₀, if_pos rfl]) hget)
  have hcases : ∀ c j w, ColumnOf t' c j w → (w = u ∧ c = c₀ ∧ j = i) ∨ ColumnOf t c j w := by
    intro c j w hw
    rcases (hcolumns c j w).mp hw with ⟨rfl, hget⟩ | ⟨-, hw⟩
    · rw [hvalue c] at hget
      by_cases hc : c = c₀
      · rw [if_pos hc] at hget
        exact .inl ⟨rfl, hc, (Option.some.inj hget).symm⟩
      · rw [if_neg hc] at hget
        exact .inr ⟨row, hrow, hget, hrowid⟩
    · exact .inr hw
  have hself : ColumnOf t' c₀ i u :=
    (hcolumns c₀ i u).mpr (.inl ⟨rfl, by rw [hvalue c₀, if_pos rfl]⟩)
  refine ⟨⟨⟨hids, ?_, ?_, ?_, ?_⟩, ?_⟩, ?_, ?_⟩
  · intro q j w w' hw hw'
    exact hone.nodes q j w w' ((hnode ..).mp hw) ((hnode ..).mp hw')
  · intro c j w w' hw hw'
    rcases hcases c j w hw with ⟨rfl, rfl, rfl⟩ | hw₀
    · rcases hcases c j w' hw' with ⟨rfl, -, -⟩ | hw₀'
      · rfl
      · by_contra hne
        exact hother w' (fun h => hne h.symm) hw₀'
    · rcases hcases c j w' hw' with ⟨rfl, rfl, rfl⟩ | hw₀'
      · by_contra hne
        exact hother w hne hw₀
      · exact hone.columns c j w w' hw₀ hw₀'
  · intro q j w hw
    exact husers w (hone.owners q j w ((hnode ..).mp hw))
  · intro c j w w' hw hw'
    have hw := (hnode ..).mp hw
    rcases hcases c j w' hw' with ⟨rfl, rfl, rfl⟩ | hw'
    · exact hfree w hw
    · exact hone.apart c j w w' hw hw'
  · intro q j w hheld
    rcases hcarried q j w hheld with hw | ⟨c, rfl, hw⟩
    · exact .inl ((hnode ..).mpr hw)
    · by_cases hwu : w = u
      · subst hwu
        by_cases hc : c = c₀
        · subst hc
          rcases hbacked c j rfl hw hheld with rfl | hback
          · exact .inr ⟨c, rfl, hself⟩
          · exact .inl ((hnode ..).mpr hback)
        · refine .inr ⟨c, rfl, (hcolumns c j w).mpr (.inl ⟨rfl, ?_⟩)⟩
          obtain ⟨row', hrow', hget, hid'⟩ := hw
          obtain rfl := hone.ids row' hrow' row hrow (hid'.trans hrowid.symm)
          rw [hvalue c, if_neg hc, hget]
      · exact .inr ⟨c, rfl, (hcolumns c j w).mpr (.inr ⟨hwu, hw⟩)⟩
  · rintro v (hv | ⟨c, hc, hv⟩)
    · exact hfree v ((hnode ..).mp hv)
    · obtain rfl := Column.platform_injective hc
      rcases hcases c i v hv with ⟨rfl, -, -⟩ | hv₀
      · rfl
      · by_contra hne
        exact hother v hne hv₀
  · intro c r hc hr hH
    obtain rfl := Column.platform_injective hc
    rcases hcases c r u hr with ⟨-, -, rfl⟩ | hr₀
    · exact .inl rfl
    · exact (hbacked c r rfl hr₀ hH).imp_right (hnode ..).mpr

/-- A new row: the unique indexes refuse an id that a row has already. -/
theorem oneOwner_createUser {user : User} (hone : OneOwner t)
    (hfree : ∀ (c : Column) j v, c.get user = some j → ¬NodeOf t c.platform j v)
    (hwrite : t.createUser user = .ok t') :
    OneOwner t' ∧ (∀ q j w, Held t q j w → Held t' q j w) ∧
      (∀ (c : Column) j, ColumnOf t' c j user.id ↔ c.get user = some j) ∧
      ∀ q j, ¬NodeOf t' q j user.id := by
  obtain ⟨hnodes, hclash, hmem⟩ := createUser_effect hwrite
  have hnode : ∀ q j w, NodeOf t' q j w ↔ NodeOf t q j w := fun q j w => NodeOf_congr hnodes
  have hfresh : ∀ row ∈ t.users, row.id ≠ user.id :=
    fun row hrow hid => hclash row hrow (clashes_of_id hid.symm)
  have hold : ∀ c j w, ColumnOf t c j w → ColumnOf t' c j w := by
    rintro c j w ⟨row, hrow, hget, hid⟩
    exact ⟨row, (hmem row).mpr (.inr hrow), hget, hid⟩
  have hcases : ∀ c j w, ColumnOf t' c j w → (w = user.id ∧ c.get user = some j) ∨
      ColumnOf t c j w := by
    rintro c j w ⟨row, hrow, hget, rfl⟩
    rcases (hmem row).mp hrow with rfl | hrow
    · exact .inl ⟨rfl, hget⟩
    · exact .inr ⟨row, hrow, hget, rfl⟩
  have hother : ∀ c j w, c.get user = some j → ¬ColumnOf t c j w := by
    rintro c j w hget ⟨row, hrow, hget', -⟩
    exact hclash row hrow (clashes_of_column hget hget')
  refine ⟨⟨?_, ?_, ?_, ?_, ?_⟩, ?_, ?_, ?_⟩
  · intro a ha b hb hab
    rcases (hmem a).mp ha with rfl | ha
    · rcases (hmem b).mp hb with rfl | hb
      · rfl
      · exact absurd hab.symm (hfresh b hb)
    · rcases (hmem b).mp hb with rfl | hb
      · exact absurd hab (hfresh a ha)
      · exact hone.ids a ha b hb hab
  · intro q j w w' hw hw'
    exact hone.nodes q j w w' ((hnode ..).mp hw) ((hnode ..).mp hw')
  · intro c j w w' hw hw'
    rcases hcases c j w hw with ⟨rfl, hget⟩ | hw₀
    · rcases hcases c j w' hw' with ⟨rfl, -⟩ | hw₀'
      · rfl
      · exact absurd hw₀' (hother c j w' hget)
    · rcases hcases c j w' hw' with ⟨rfl, hget⟩ | hw₀'
      · exact absurd hw₀ (hother c j w hget)
      · exact hone.columns c j w w' hw₀ hw₀'
  · intro q j w hw
    obtain ⟨row, hrow, hid⟩ := hone.owners q j w ((hnode ..).mp hw)
    exact ⟨row, (hmem row).mpr (.inr hrow), hid⟩
  · intro c j w w' hw hw'
    have hw := (hnode ..).mp hw
    rcases hcases c j w' hw' with ⟨rfl, hget⟩ | hw₀'
    · exact absurd hw (hfree c j w hget)
    · exact hone.apart c j w w' hw hw₀'
  · rintro q j w (hw | ⟨c, hc, hw⟩)
    · exact .inl ((hnode ..).mpr hw)
    · exact .inr ⟨c, hc, hold c j w hw⟩
  · intro c j
    constructor
    · intro hw
      rcases hcases c j user.id hw with ⟨-, hget⟩ | ⟨row, hrow, -, hid⟩
      · exact hget
      · exact absurd hid (hfresh row hrow)
    · intro hget
      exact ⟨user, (hmem user).mpr (.inl rfl), hget, rfl⟩
  · intro q j hw
    obtain ⟨row, hrow, hid⟩ := hone.owners q j user.id ((hnode ..).mp hw)
    exact hfresh row hrow hid

/-- The node at the provisional id, or a new one, becomes that of the id; then the column
follows. -/
theorem carries_adoption {c₀ : Column} {prov : String} {update : SocialNode → SocialNode}
    {create : SocialNode} {t₁ : Tables} (hone : OneOwner t) (hprov : prov ≠ i)
    (hbacked : ∀ r, ColumnOf t c₀ r u → r = prov ∨ r = i ∨ NodeOf t c₀.platform r u)
    (hwrite : t.upsertNode c₀.platform prov update create = .ok t₁)
    (hupdate : ∀ node ∈ t.nodes, node.key = (c₀.platform, prov) →
      (update node).key = (c₀.platform, i) ∧ (update node).userId = u)
    (hcreate : create.key = (c₀.platform, i) ∧ create.userId = u)
    (hcolumn : t₁.updateUser u (c₀.set (some i)) = .ok t') :
    Takes (fun q j w => Held t q j w ∧ ¬(q = c₀.platform ∧ j = prov)) u c₀.platform i t' := by
  obtain ⟨husers, howner, hnodes, hfresh⟩ := upsertNode_effect hwrite hupdate hcreate
  have hfresh : ∀ w, ¬NodeOf t c₀.platform i w := hfresh fun heq => hprov (Prod.mk.inj heq).2.symm
  have hcolumns : ∀ c j w, ColumnOf t₁ c j w ↔ ColumnOf t c j w :=
    fun c j w => ColumnOf_congr husers
  -- the id is in no other row's column, or the second statement would have been refused
  have hother : ∀ v, ColumnOf t c₀ i v → v = u := by
    rintro v ⟨other, hmem, hget, rfl⟩
    by_contra hne
    obtain ⟨-, row, -, -, hclash, -⟩ := updateUser_effect (by rw [husers]; exact hone.ids) hcolumn
    exact hclash other (by rw [husers]; exact hmem) hne
      (clashes_of_column (c := c₀) (Column.get_set_self ..) hget)
  have hone₁ : OneOwner t₁ := by
    refine ⟨by rw [husers]; exact hone.ids, ?_, ?_, ?_, ?_⟩
    · intro q j w w' hw hw'
      rcases (hnodes q j w).mp hw with ⟨hkey, rfl⟩ | ⟨-, hw⟩
      · rcases (hnodes q j w').mp hw' with ⟨-, rfl⟩ | ⟨-, hw'⟩
        · rfl
        · obtain ⟨rfl, rfl⟩ := Prod.mk.inj hkey
          exact absurd hw' (hfresh w')
      · rcases (hnodes q j w').mp hw' with ⟨hkey, -⟩ | ⟨-, hw'⟩
        · obtain ⟨rfl, rfl⟩ := Prod.mk.inj hkey
          exact absurd hw (hfresh w)
        · exact hone.nodes q j w w' hw hw'
    · intro c j w w' hw hw'
      exact hone.columns c j w w' ((hcolumns ..).mp hw) ((hcolumns ..).mp hw')
    · intro q j w hw
      rw [husers]
      rcases (hnodes q j w).mp hw with ⟨-, rfl⟩ | ⟨-, hw⟩
      · exact howner
      · exact hone.owners q j w hw
    · intro c j w w' hw hw'
      have hw' := (hcolumns ..).mp hw'
      rcases (hnodes _ j w).mp hw with ⟨hkey, rfl⟩ | ⟨-, hw⟩
      · obtain ⟨hc, rfl⟩ := Prod.mk.inj hkey
        obtain rfl := Column.platform_injective hc
        exact (hother w' hw').symm
      · exact hone.apart c j w w' hw hw'
  refine takes_of_column hone₁ ?_ ?_ ?_ (fun row => Column.set_id ..) ?_ hcolumn
  · rintro q j w ⟨hw, hne⟩
    rcases hw with hw | ⟨c, hc, hw⟩
    · refine .inl ((hnodes q j w).mpr (.inr ⟨fun heq => hne (Prod.mk.inj heq), hw⟩))
    · exact .inr ⟨c, hc, (hcolumns ..).mpr hw⟩
  · intro v hv
    rcases (hnodes _ i v).mp hv with ⟨-, hv⟩ | ⟨-, hv⟩
    · exact hv
    · exact absurd hv (hfresh v)
  · rintro c r hc hr ⟨-, hne⟩
    obtain rfl := Column.platform_injective hc
    rcases hbacked r ((hcolumns ..).mp hr) with rfl | rfl | hnode
    · exact absurd ⟨rfl, rfl⟩ hne
    · exact .inl rfl
    · exact .inr ((hnodes _ r u).mpr (.inr ⟨fun heq => hne (Prod.mk.inj heq), hnode⟩))
  · intro row _ _ c
    by_cases hc : c = c₀
    · rw [if_pos hc, hc, Column.get_set_self]
    · rw [if_neg hc, Column.get_set_of_ne hc]

/-- A user's rows of one platform leave the link table. -/
theorem carries_deleteNodes (hone : OneOwner t) :
    Carries (fun q j w => Held t q j w ∧ ¬(w = u ∧ q = p)) (t.deleteNodes u p) := by
  have hnodes : ∀ q j w, NodeOf (t.deleteNodes u p) q j w ↔ NodeOf t q j w ∧ ¬(w = u ∧ q = p) := by
    intro q j w
    constructor
    · rintro ⟨node, hnode, hkey, hw⟩
      obtain ⟨hnode, hkeep⟩ := List.mem_filter.mp hnode
      refine ⟨⟨node, hnode, hkey, hw⟩, ?_⟩
      rintro ⟨rfl, rfl⟩
      exact of_decide_eq_true hkeep ⟨hw, (Prod.mk.inj hkey).1⟩
    · rintro ⟨⟨node, hnode, hkey, hw⟩, hkeep⟩
      refine ⟨node, List.mem_filter.mpr ⟨hnode, decide_eq_true ?_⟩, hkey, hw⟩
      rintro ⟨hu, hp⟩
      exact hkeep ⟨hw.symm.trans hu, (Prod.mk.inj hkey).1.symm.trans hp⟩
  refine ⟨⟨hone.ids, ?_, hone.columns, ?_, ?_⟩, ?_⟩
  · intro q j w w' hw hw'
    exact hone.nodes q j w w' ((hnodes q j w).mp hw).1 ((hnodes q j w').mp hw').1
  · intro q j w hw
    exact hone.owners q j w ((hnodes q j w).mp hw).1
  · intro c j w w' hw hw'
    exact hone.apart c j w w' ((hnodes _ j w).mp hw).1 hw'
  · rintro q j w ⟨hw | ⟨c, hc, hw⟩, hkeep⟩
    · exact .inl ((hnodes q j w).mpr ⟨hw, hkeep⟩)
    · exact .inr ⟨c, hc, hw⟩

/-- The user's column of one platform is cleared. -/
theorem carries_clearColumn {c₀ : Column}
    (h : Carries (fun q j w => H q j w ∧ ¬(w = u ∧ q = c₀.platform)) t)
    (hwrite : t.updateUser u (c₀.set none) = .ok t') :
    Carries (fun q j w => H q j w ∧ ¬(w = u ∧ q = c₀.platform)) t' := by
  obtain ⟨hnodes, row, hrow, rfl, -, hids, husers, hcolumns⟩ :=
    columns_updateUser h.one (fun row => Column.set_id ..) hwrite
  have hnode : ∀ q j w, NodeOf t' q j w ↔ NodeOf t q j w := fun q j w => NodeOf_congr hnodes
  have hold : ∀ c j w, ColumnOf t' c j w → ColumnOf t c j w := by
    intro c j w hw
    rcases (hcolumns c j w).mp hw with ⟨rfl, hget⟩ | ⟨-, hw⟩
    · by_cases hc : c = c₀
      · rw [hc, Column.get_set_self] at hget
        cases hget
      · exact ⟨row, hrow, by rwa [Column.get_set_of_ne hc] at hget, rfl⟩
    · exact hw
  refine ⟨⟨hids, ?_, ?_, ?_, ?_⟩, ?_⟩
  · intro q j w w' hw hw'
    exact h.one.nodes q j w w' ((hnode ..).mp hw) ((hnode ..).mp hw')
  · intro c j w w' hw hw'
    exact h.one.columns c j w w' (hold c j w hw) (hold c j w' hw')
  · intro q j w hw
    exact husers w (h.one.owners q j w ((hnode ..).mp hw))
  · intro c j w w' hw hw'
    exact h.one.apart c j w w' ((hnode ..).mp hw) (hold c j w' hw')
  · rintro q j w hH
    rcases h.carried q j w hH with hw | ⟨c, rfl, hw⟩
    · exact .inl ((hnode ..).mpr hw)
    · refine .inr ⟨c, rfl, (hcolumns c j w).mpr ?_⟩
      by_cases hwu : w = row.id
      · have hc : c ≠ c₀ := fun hc => hH.2 ⟨hwu, by rw [hc]⟩
        obtain ⟨row', hrow', hget, hid'⟩ := hw
        obtain rfl := h.one.ids row' hrow' row hrow (hid'.trans hwu)
        exact .inl ⟨hwu, by rw [Column.get_set_of_ne hc]; exact hget⟩
      · exact .inr ⟨hwu, hw⟩

end Steps

end VeriAgentPay.Identity
