import Mathlib
import GrammarArtifact.Proofs.Rule.Tree
import GrammarArtifact.Proofs.Validation.Exact
import GrammarArtifact.Rule.Build

/-! # Rules that begin with themselves

What a body can begin with is given by the way there: through wrappers and members of
choices, and in a sequence past members that can be empty. The search behind the
warnings goes such ways too, but it takes no detour: it enters no reserved context, and
of a sequence only the first member. So it is sound, and where no body offers a detour it
is complete. -/

namespace GrammarArtifact

/-- The constructions that begin as their content does. -/
def RuleType.isWrapper : RuleType → Bool
  | .prec | .precLeft | .precRight | .precDynamic | .field | .aliased | .reserved
  | .repeated | .repeated1 => true
  | _ => false

namespace Rule
variable {r s c body : Rule} {detours : List Rule} {name : String}

/-- A rule that can be empty, whatever other rules there are. -/
inductive Nullable : Rule → Prop
  | blank {r : Rule} : r.type = .blank → Nullable r
  | repeated {r : Rule} : r.type = .repeated → Nullable r
  | choice {r m : Rule} : r.type = .choice → m ∈ r.members → Nullable m → Nullable r
  | seq {r : Rule} : r.type = .seq → (∀ m ∈ r.members, Nullable m) → Nullable r
  | wrapper {r c : Rule} : r.type.isWrapper = true → r.content = some c → Nullable c → Nullable r

/-- The first rule can begin with the second one, which lies in it. Listed are the detours on the
way: the reserved contexts that are entered, and the members of sequences that are left empty. -/
inductive Begins : Rule → List Rule → Rule → Prop
  | here {r : Rule} : Begins r [] r
  | wrapper {r c s : Rule} {detours : List Rule} : r.type.isWrapper = true → r.type ≠ .reserved →
    r.content = some c → Begins c detours s → Begins r detours s
  | reserved {r c s : Rule} {detours : List Rule} : r.type = .reserved → r.content = some c →
    Begins c detours s → Begins r (r :: detours) s
  | choice {r m s : Rule} {detours : List Rule} : r.type = .choice → m ∈ r.members →
    Begins m detours s → Begins r detours s
  | seq {r m s : Rule} {skipped rest detours : List Rule} : r.type = .seq →
    r.members = skipped ++ m :: rest → (∀ e ∈ skipped, e.Nullable) → Begins m detours s →
    Begins r (skipped ++ detours) s

def IsReferenceTo (r : Rule) (name : String) : Prop := r.type = .symbol ∧ r.name = some name

/-- A body can begin with a reference to a name. -/
def CanBeginWith (body : Rule) (name : String) : Prop :=
  ∃ detours s, body.Begins detours s ∧ s.IsReferenceTo name

/-- A sequence begins as its first member does. -/
theorem Begins.first {m : Rule} {rest : List Rule} (ht : r.type = .seq)
    (members : r.members = m :: rest) (h : m.Begins detours s) : r.Begins detours s := by
  have none : ∀ e ∈ ([] : List Rule), e.Nullable := List.forall_mem_nil _
  exact .seq ht members none h

/-! ## Steps of the search -/

/-- The search enters the second rule from the first one. -/
def Enters (r c : Rule) : Prop :=
  (r.type.isWrapper = true ∧ r.type ≠ .reserved ∧ r.content = some c) ∨
  (r.type = .choice ∧ c ∈ r.members) ∨
  (r.type = .seq ∧ r.members.head? = some c)

theorem Enters.mem_children (h : r.Enters c) : c ∈ r.children := by
  rcases h with ⟨_, _, content⟩ | ⟨_, member⟩ | ⟨_, first⟩
  · exact Rule.mem_children.mpr (.inl content)
  · exact Rule.mem_children.mpr (.inr member)
  · exact Rule.mem_children.mpr (.inr (List.mem_of_mem_head? first))

theorem contentBeginsWith_iff {content : Option Rule} :
    contentBeginsWith name content = true ↔ ∃ c, content = some c ∧ c.beginsWith name = true := by
  cases content <;> simp [contentBeginsWith]

theorem firstBeginsWith_iff {members : List Rule} : firstBeginsWith name members = true ↔
    ∃ m, members.head? = some m ∧ m.beginsWith name = true := by
  cases members <;> simp [firstBeginsWith]

theorem anyBeginsWith_iff {members : List Rule} :
    anyBeginsWith name members = true ↔ ∃ m ∈ members, m.beginsWith name = true := by
  induction members with
  | nil => simp [anyBeginsWith]
  | cons m rest ih => simp [anyBeginsWith, ih]

/-- The search finds a reference, or goes on in a rule that it enters. -/
theorem beginsWith_step : r.beginsWith name = true ↔
    r.IsReferenceTo name ∨ ∃ c, r.Enters c ∧ c.beginsWith name = true := by
  obtain ⟨type, value, label, content, members, named, flags, context⟩ := r
  cases type <;> simp [beginsWith, IsReferenceTo, Enters, RuleType.isWrapper, symbolName?, isSymbol,
    contentBeginsWith_iff, firstBeginsWith_iff, anyBeginsWith_iff]

/-- A way without detours ends, or goes on in a rule that the search enters. -/
theorem begins_nil_step : r.Begins [] s ↔ s = r ∨ ∃ c, r.Enters c ∧ c.Begins [] s := by
  constructor
  · intro h
    generalize none : ([] : List Rule) = detours at h
    cases h with
    | here => exact .inl rfl
    | wrapper ht other content h => exact .inr ⟨_, .inl ⟨ht, other, content⟩, none ▸ h⟩
    | reserved => cases none
    | choice ht member h => exact .inr ⟨_, .inr (.inl ⟨ht, member⟩), none ▸ h⟩
    | seq ht members _ h =>
      obtain ⟨rfl, rfl⟩ := List.append_eq_nil_iff.mp none.symm
      exact .inr ⟨_, .inr (.inr ⟨ht, by simp [members]⟩), h⟩
  · intro h
    rcases h with rfl | ⟨c, ⟨ht, other, content⟩ | ⟨ht, member⟩ | ⟨ht, first⟩, h⟩
    · exact .here
    · exact .wrapper ht other content h
    · exact .choice ht member h
    · obtain ⟨rest, members⟩ := List.head?_eq_some_iff.mp first
      exact .first ht members h

/-- **The search finds what a body begins with, without a detour.** -/
theorem beginsWith_iff : r.beginsWith name = true ↔
    ∃ s, r.Begins [] s ∧ s.IsReferenceTo name := by
  induction r using children_induction with
  | step r ih =>
    rw [beginsWith_step]
    constructor
    · intro h
      rcases h with own | ⟨c, enters, found⟩
      · exact ⟨r, .here, own⟩
      · obtain ⟨s, begins, refers⟩ := (ih c enters.mem_children).mp found
        exact ⟨s, begins_nil_step.mpr (.inr ⟨c, enters, begins⟩), refers⟩
    · intro h
      obtain ⟨s, begins, refers⟩ := h
      rcases begins_nil_step.mp begins with rfl | ⟨c, enters, begins⟩
      · exact .inl refers
      · exact .inr ⟨c, enters, (ih c enters.mem_children).mpr ⟨s, begins, refers⟩⟩

/-! ## Bodies without detours -/

/-- A body that offers no detour: it has no reserved contexts, and in its sequences no member before
the last one can be empty. -/
def IsStraight (body : Rule) : Prop :=
  ∀ r ∈ body.preorder, r.type ≠ .reserved ∧
    (r.type = .seq → ∀ m ∈ r.members.dropLast, ¬m.Nullable)

theorem IsStraight.child (straight : r.IsStraight) (h : c ∈ r.children) : c.IsStraight :=
  fun _ hm => straight _ (mem_preorder_of_child h hm)

theorem IsStraight.detours_eq_nil (straight : r.IsStraight) (h : r.Begins detours s) :
    detours = [] := by
  induction h with
  | here => rfl
  | wrapper _ _ content _ ih => exact ih (straight.child (mem_children.mpr (.inl content)))
  | @reserved r _ _ _ ht => exact absurd ht (straight r (self_mem_preorder r)).1
  | choice _ member _ ih => exact ih (straight.child (mem_children.mpr (.inr member)))
  | @seq r m _ skipped rest _ ht members empty _ ih =>
    have first : skipped = [] := by
      refine List.eq_nil_iff_forall_not_mem.mpr ?_
      intro e he
      have early : e ∈ r.members.dropLast := by
        rw [members, List.dropLast_append_of_ne_nil (List.cons_ne_nil m rest)]
        exact List.mem_append_left _ he
      exact (straight r (self_mem_preorder r)).2 ht e early (empty e he)
    have member : m ∈ r.members := by simp [members]
    rw [first, ih (straight.child (mem_children.mpr (.inr member)))]
    rfl

theorem IsStraight.beginsWith_iff (straight : body.IsStraight) :
    body.beginsWith name = true ↔ body.CanBeginWith name := by
  rw [Rule.beginsWith_iff]
  constructor
  · intro h
    obtain ⟨s, begins, refers⟩ := h
    exact ⟨[], s, begins, refers⟩
  · intro h
    obtain ⟨detours, s, begins, refers⟩ := h
    obtain rfl := straight.detours_eq_nil begins
    exact ⟨s, begins, refers⟩

end Rule

namespace Grammar
variable {check : PatternCheck} {g : Grammar} {name start : String}
  {warnings : List Warning}

theorem mem_leftRecursiveRules : name ∈ g.leftRecursiveRules ↔
    ∃ body, g.rule? name = some body ∧ body.beginsWith name = true := by
  unfold leftRecursiveRules
  constructor
  · intro h
    obtain ⟨⟨rule, body⟩, entry, rfl⟩ := List.mem_map.mp h
    obtain ⟨entry, begins⟩ := List.mem_filter.mp entry
    exact ⟨body, mem_ruleEntries.mp entry, begins⟩
  · intro h
    obtain ⟨body, hr, begins⟩ := h
    exact List.mem_map.mpr
      ⟨(name, body), List.mem_filter.mpr ⟨mem_ruleEntries.mpr hr, begins⟩, rfl⟩

theorem leftRecursion_mem_warnings :
    .leftRecursion name ∈ g.warnings start ↔ name ∈ g.leftRecursiveRules := by
  simp [warnings]

/-- **Left recursion is reported where a body begins with its own rule, without a detour.** What is
reported is always so, and for a body that offers no detour the report is exact. -/
theorem leftRecursion_reported (valid : g.validateWith check = .ok warnings) (name : String) :
    (.leftRecursion name ∈ warnings ↔ ∃ body, g.rule? name = some body ∧
      ∃ s, body.Begins [] s ∧ s.IsReferenceTo name) ∧
    ∀ body, g.rule? name = some body → body.IsStraight →
      (.leftRecursion name ∈ warnings ↔ body.CanBeginWith name) := by
  obtain ⟨_, start, _, rfl⟩ := validateWith_eq_ok.mp valid
  rw [leftRecursion_mem_warnings, mem_leftRecursiveRules]
  constructor
  · simp only [Rule.beginsWith_iff]
  · intro body hr straight
    rw [hr, ← straight.beginsWith_iff]
    simp

/-- A sign that may be missing, and a number that has one. -/
def numberBody : Rule := .choice [.seq [.optional (.literal "-"), .symbol "number"], .literal "1"]

def rowBody : Rule :=
  .choice [.prec 1 (.seq [.symbol "row", .literal ",", .symbol "number"]), .symbol "number"]

def rows : Grammar where
  name := "rows"
  rules := .ofList [("number", numberBody), ("row", rowBody), ("source_file", Rule.symbol "row")]

theorem straight_rowBody : rowBody.IsStraight := by
  have full : ∀ m ∈ [Rule.symbol "row", .literal ","], ¬m.Nullable := by
    intro m hm empty
    rcases List.mem_pair.mp hm with rfl | rfl <;> cases empty <;> contradiction
  have each : ∀ r ∈ rowBody.preorder, r.type ≠ .reserved ∧
      (r.type = .seq → r.members.dropLast = [.symbol "row", .literal ","]) := by decide
  intro r hr
  refine ⟨(each r hr).1, fun ht => ?_⟩
  rw [(each r hr).2 ht]
  exact full

/-- The sign can be missing, so a number can begin with a number. -/
theorem numberBody_canBegin : numberBody.CanBeginWith "number" := by
  have empty : (Rule.optional (.literal "-")).Nullable :=
    .choice (m := .blank) rfl (by decide) (.blank rfl)
  have skipped : ∀ e ∈ [Rule.optional (.literal "-")], e.Nullable :=
    List.forall_mem_singleton.mpr empty
  exact ⟨_, .symbol "number", .choice rfl List.mem_cons_self (.seq rfl rfl skipped .here), rfl, rfl⟩

/-- A row is reported, since its body offers no detour and can begin with a row. A number is not
reported, although it can begin with a number: the way leads past the sign. -/
theorem rows_reported : ∃ warnings, rows.validate = .ok warnings ∧
    .leftRecursion "row" ∈ warnings ∧
    numberBody.CanBeginWith "number" ∧ .leftRecursion "number" ∉ warnings := by
  have valid : rows.validate = .ok (rows.warnings "source_file") :=
    validateWith_eq_ok.mpr ⟨by cbv, "source_file", by cbv, rfl⟩
  have row : rows.rule? "row" = some rowBody := by cbv
  have number : rows.rule? "number" = some numberBody := by cbv
  have begins : rowBody.CanBeginWith "row" := by
    refine ⟨[], .symbol "row", ?_, rfl, rfl⟩
    exact .choice rfl List.mem_cons_self (.wrapper rfl (by decide) rfl (.first rfl rfl .here))
  refine ⟨_, valid, ?_, numberBody_canBegin, ?_⟩
  · exact ((leftRecursion_reported valid "row").2 rowBody row straight_rowBody).mpr begins
  · intro reported
    obtain ⟨body, hr, found⟩ := (leftRecursion_reported valid "number").1.mp reported
    obtain rfl := Option.some.inj (number.symm.trans hr)
    rw [← Rule.beginsWith_iff] at found
    cases found

end Grammar
end GrammarArtifact
