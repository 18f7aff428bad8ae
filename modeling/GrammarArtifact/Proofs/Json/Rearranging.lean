import Mathlib.Data.List.Pairwise
import Mathlib.Data.List.Perm.Basic
import GrammarArtifact.Proofs.Json.Layout

/-! # Members in another order

The properties of a record are independent of each other: the places into which two of
them put their values do not meet. So the members of an object may stand in any order,
and a key that is unknown, or absent because its value says so, may as well not stand
there at all. -/

namespace GrammarArtifact.Json
variable {α β γ : Type}

/-! ## Mapped lists -/

theorem mapM_eq_some_iff {f : α → Option β} {as : List α} {bs : List β} :
    as.mapM f = some bs ↔ List.Forall₂ (fun a b => f a = some b) as bs := by
  induction as generalizing bs with
  | nil => simp [eq_comm]
  | cons a as ih =>
    simp only [List.mapM_cons, Option.bind_eq_bind, Option.bind_eq_some_iff, Option.pure_def,
      Option.some.injEq, ih, List.forall₂_cons_left_iff]
    constructor
    · rintro ⟨b, hb, bs, hbs, rfl⟩
      exact ⟨b, bs, hb, hbs, rfl⟩
    · rintro ⟨b, bs, hb, hbs, rfl⟩
      exact ⟨b, hb, bs, hbs, rfl⟩

/-- A list in another order is mapped to the results in another order. -/
theorem mapM_perm {f : α → Option β} {as as' : List α} {bs : List β} (h : as.Perm as')
    (mapped : as.mapM f = some bs) : ∃ bs', as'.mapM f = some bs' ∧ bs.Perm bs' := by
  obtain ⟨bs', related, perm⟩ := List.perm_comp_forall₂ h.symm (mapM_eq_some_iff.mp mapped)
  exact ⟨bs', mapM_eq_some_iff.mpr related, perm.symm⟩

/-- An element of a list may be replaced by one that is mapped to the same. -/
theorem mapM_replace {f : α → Option β} {before after : List α} {a a' : α} {bs : List β}
    (same : ∀ b, f a = some b → f a' = some b) (mapped : (before ++ a :: after).mapM f = some bs) :
    (before ++ a' :: after).mapM f = some bs := by
  rw [List.mapM_append, List.mapM_cons] at mapped ⊢
  cases h : f a with
  | none => simp [h] at mapped
  | some b =>
    rw [same b h]
    rw [h] at mapped
    exact mapped

/-- In related lists related elements stand at the same place. -/
theorem getElem?_related {δ ε : Type*} {R : δ → ε → Prop} {as : List δ} {bs : List ε}
    (h : List.Forall₂ R as bs) {i : Nat} {b : ε} (hb : bs[i]? = some b) :
    ∃ a, as[i]? = some a ∧ R a b := by
  induction h generalizing i with
  | nil => cases hb
  | @cons a b' as bs hab _ ih =>
    cases i with
    | zero =>
      cases hb
      exact ⟨a, rfl, hab⟩
    | succ i => exact ih hb

/-! ## Independent properties -/

/-- Two properties have different names, and places that do not meet. -/
def Property.Apart (p q : Property α) : Prop :=
  p.name ≠ q.name ∧ ∀ a x y, p.put (q.put a y) x = q.put (p.put a x) y

instance : Std.Symm (Property.Apart (α := α)) where
  symm p q := by
    intro h
    exact ⟨h.1.symm, fun a x y => (h.2 a y x).symm⟩

namespace Layout
variable {l : Layout α} {room : Nat}

/-- Any two properties are apart. -/
def Independent (l : Layout α) : Prop := l.properties.Pairwise Property.Apart

theorem Independent.eq_of_name (h : l.Independent) {p q : Property α} (hp : p ∈ l.properties)
    (hq : q ∈ l.properties) (same : p.name = q.name) : p = q := by
  by_contra ne
  exact (List.Pairwise.forall h hp hq ne).1 same

theorem Independent.comm (h : l.Independent) {p q : Property α} (hp : p ∈ l.properties)
    (hq : q ∈ l.properties) (apart : p.name ≠ q.name) (a : α) (x : p.Value) (y : q.Value) :
    p.put (q.put a y) x = q.put (p.put a x) y :=
  (List.Pairwise.forall h hp hq fun same => apart (congrArg Property.name same)).2 a x y

variable {given given' : List (Property α × Tree)} {named named' : List (String × Tree)}

theorem mem_known {g : Property α × Tree} (h : g ∈ l.known named) : g.1 ∈ l.properties := by
  obtain ⟨m, _, hm⟩ := List.mem_filterMap.mp h
  obtain ⟨p, hp, rfl⟩ := Option.map_eq_some_iff.mp hm
  exact mem_of_property? hp

/-- Values may be given in any order. -/
theorem assign?_perm (independent : l.Independent) (h : given.Perm given')
    (known : ∀ g ∈ given, g.1 ∈ l.properties) (distinct : (names given).Nodup) (a : α) :
    assign? a given = assign? a given' := by
  induction h generalizing a with
  | nil => rfl
  | cons g _ ih =>
    obtain ⟨p, v⟩ := g
    rw [assign?_cons, assign?_cons]
    congr 1
    funext b
    exact ih (fun g hg => known g (by simp [hg])) (List.nodup_cons.mp distinct).2 b
  | swap g g' given =>
    obtain ⟨p, v⟩ := g
    obtain ⟨q, w⟩ := g'
    have apart : q.name ≠ p.name := by
      intro same
      exact (List.nodup_cons.mp distinct).1 (by simp [same])
    have comm := independent.comm (known (q, w) (by simp)) (known (p, v) (by simp)) apart
    simp only [assign?_cons, Property.assign?]
    cases p.value? v with
    | none => cases q.value? w <;> rfl
    | some x =>
      cases q.value? w with
      | none => rfl
      | some y => exact congrArg (assign? · given) (comm a y x).symm
  | trans h₁ _ ih₁ ih₂ =>
    rw [ih₁ known distinct a]
    exact ih₂ (fun g hg => known g (h₁.mem_iff.mpr hg))
      ((h₁.map _).nodup_iff.mp distinct) a

theorem complete_perm (h : given.Perm given') : l.Complete given ↔ l.Complete given' := by
  have perm : (names given).Perm (names given') := h.map _
  simp only [Complete, perm.nodup_iff, perm.mem_iff]

/-- A property is found by its name. -/
theorem Independent.property?_name (independent : l.Independent) {p : Property α}
    (hp : p ∈ l.properties) : l.property? p.name = some p :=
  Layout.property?_name (List.pairwise_map.mpr (independent.imp And.left)) hp

/-- The members of a record may stand in any order. -/
theorem ofMembers?_perm (independent : l.Independent) (h : named.Perm named') :
    l.ofMembers? named = l.ofMembers? named' := by
  have perm : (l.known named).Perm (l.known named') := h.filterMap _
  unfold ofMembers?
  by_cases complete : l.Complete (l.known named)
  · rw [if_pos complete, if_pos ((complete_perm perm).mp complete)]
    exact assign?_perm independent perm (fun _ => mem_known) complete.1 l.blank
  · rw [if_neg complete, if_neg fun h => complete ((complete_perm perm).mpr h)]

/-- A member under an unknown key may as well not stand there. -/
theorem ofMembers?_unknown {key : String} {v : Tree} (unknown : l.property? key = none) :
    l.ofMembers? ((key, v) :: named) = l.ofMembers? named := by
  simp only [ofMembers?, known_cons, unknown]

/-- A member that gives what is absent may as well not stand there. -/
theorem ofMembers?_absent (independent : l.Independent) {p : Property α} {key : String} {v : Tree}
    {x : p.Value} {a : α} (found : l.property? key = some p) (optional : p.required = false)
    (value : p.value? v = some x) (blank : p.put l.blank x = l.blank)
    (made : l.ofMembers? ((key, v) :: named) = some a) : l.ofMembers? named = some a := by
  simp only [ofMembers?, known_cons, found, Option.ite_none_right_eq_some, assign?_cons,
    Property.assign?, value, Option.map_some, blank, Option.bind_some] at made ⊢
  obtain ⟨⟨distinct, present⟩, made⟩ := made
  refine ⟨⟨(List.nodup_cons.mp distinct).2, fun q hq required => ?_⟩, made⟩
  rcases List.mem_cons.mp (present q hq required) with same | there
  · rw [independent.eq_of_name hq (mem_of_property? found) same, optional] at required
    cases required
  · exact there

/-- A value may be replaced by one of which the same is made. -/
theorem ofMembers?_replace {key : String} {v v' : Tree} {a : α}
    (same : ∀ p, l.property? key = some p → ∀ x, p.value? v = some x → p.value? v' = some x)
    (made : l.ofMembers? ((key, v) :: named) = some a) :
    l.ofMembers? ((key, v') :: named) = some a := by
  cases found : l.property? key with
  | none =>
    rw [ofMembers?_unknown found] at made ⊢
    exact made
  | some p =>
    simp only [ofMembers?, known_cons, found, Option.ite_none_right_eq_some, assign?_cons,
      Property.assign?, Option.bind_eq_some_iff, Option.map_eq_some_iff] at made ⊢
    obtain ⟨complete, b, ⟨x, hx, rfl⟩, made⟩ := made
    exact ⟨complete, _, ⟨x, same p found x hx, rfl⟩, made⟩

theorem assign?_zip_replace {properties : List (Property α)} {before after : List Tree}
    {v v' : Tree} {a b : α} (same : ∀ p, properties[before.length]? = some p →
      ∀ x, p.value? v = some x → p.value? v' = some x)
    (made : assign? a (properties.zip (before ++ v :: after)) = some b) :
    assign? a (properties.zip (before ++ v' :: after)) = some b := by
  induction before generalizing properties a with
  | nil =>
    cases properties with
    | nil => exact made
    | cons p properties =>
      simp only [List.nil_append, List.zip_cons_cons, assign?_cons, Property.assign?,
        Option.bind_eq_some_iff, Option.map_eq_some_iff] at made ⊢
      obtain ⟨c, ⟨x, hx, rfl⟩, made⟩ := made
      exact ⟨_, ⟨x, same p rfl x hx, rfl⟩, made⟩
  | cons w before ih =>
    cases properties with
    | nil => exact made
    | cons p properties =>
      simp only [List.cons_append, List.zip_cons_cons, assign?_cons,
        Option.bind_eq_some_iff] at made ⊢
      obtain ⟨c, hc, made⟩ := made
      exact ⟨c, hc, ih (by simpa using same) made⟩

/-- An item may be replaced by one of which its property makes the same. -/
theorem ofItems?_replace {before after : List Tree} {v v' : Tree} {a : α}
    (same : ∀ p, l.properties[before.length]? = some p →
      ∀ x, p.value? v = some x → p.value? v' = some x)
    (made : l.ofItems? (before ++ v :: after) = some a) :
    l.ofItems? (before ++ v' :: after) = some a := by
  have size : (before ++ v' :: after).length = (before ++ v :: after).length := by simp
  rw [ofItems?, Option.ite_none_right_eq_some] at made ⊢
  rw [size]
  exact ⟨made.1, assign?_zip_replace same made.2⟩

/-- A member may as well stand in front. -/
theorem ofMembers?_middle (independent : l.Independent) {before after : List (List Mark × Tree)}
    {key : List Mark} {name : String} {v : Tree} (text : Mark.text? key = some name) :
    ((before ++ (key, v) :: after).mapM (Tree.member? some)).bind l.ofMembers? =
      ((before ++ after).mapM (Tree.member? some)).bind fun named =>
        l.ofMembers? ((name, v) :: named) := by
  have front : ((key, v) :: (before ++ after)).mapM (Tree.member? some) =
      ((before ++ after).mapM (Tree.member? some)).map ((name, v) :: ·) := by
    rw [List.mapM_cons, Tree.member?, text]
    cases (before ++ after).mapM (Tree.member? some) <;> rfl
  cases hn : (before ++ (key, v) :: after).mapM (Tree.member? some) with
  | none =>
    cases hf : (before ++ after).mapM (Tree.member? some) with
    | none => rfl
    | some named =>
      rw [hf] at front
      obtain ⟨_, hn', _⟩ := mapM_perm List.perm_middle.symm front
      rw [hn] at hn'
      cases hn'
  | some all =>
    obtain ⟨_, hf, perm⟩ := mapM_perm List.perm_middle hn
    rw [front, Option.map_eq_some_iff] at hf
    obtain ⟨named, hf, rfl⟩ := hf
    rw [hf, Option.bind_some, Option.bind_some]
    exact ofMembers?_perm independent perm

end Layout
end GrammarArtifact.Json
