import Mathlib.Logic.Relation
import GrammarArtifact.Proofs.Grammar.Decoding
import GrammarArtifact.Proofs.Grammar.Listing
import GrammarArtifact.Proofs.Json.Rearranging
import GrammarArtifact.Proofs.Json.Writing

/-! # What does not count in a document

The order of the keys of an object does not count, nor do keys that a structure does not
know and keys that say that an optional property is absent. A step changes one such
thing at one place of a document. Every decoder is insensitive to the steps within the
values that it is for, given that it is insensitive to the steps within their parts; so
the grammar stays the same however many steps are made. -/

namespace GrammarArtifact
open Json

namespace Document

/-! ## Roles -/

/-- What a value in a document is read as. -/
inductive Role where
  | other
  | rule
  | grammar
  | list (item : Role)
  | map (value : Role)

/-- A key of a structure: whether it may say `null` for an absent value, and what its value is
read as. -/
structure Key where
  name : String
  nullable : Bool
  role : Role

namespace Role

/-- The keys that a structure knows, in the order in which a list gives their values. -/
def keys : Role → List Key
  | rule => [⟨"type", false, other⟩, ⟨"value", true, other⟩, ⟨"name", true, other⟩,
      ⟨"content", true, rule⟩, ⟨"members", false, list rule⟩, ⟨"named", true, other⟩,
      ⟨"flags", true, other⟩, ⟨"context_name", true, other⟩]
  | grammar => [⟨"$schema", true, other⟩, ⟨"name", false, other⟩, ⟨"inherits", true, other⟩,
      ⟨"rules", false, map rule⟩, ⟨"extras", true, list rule⟩, ⟨"externals", true, list rule⟩,
      ⟨"inline", true, other⟩, ⟨"precedences", true, list (list rule)⟩,
      ⟨"conflicts", true, other⟩, ⟨"reserved", true, map (list rule)⟩, ⟨"word", true, other⟩,
      ⟨"supertypes", true, other⟩]
  | _ => []

/-- The role of a key's value; nothing is known of an unknown key. -/
def ofKey? : Option Key → Role
  | some key => key.role
  | none => other

/-- What an item of a list is read as. A structure may be written as the list of its values. -/
def item : Role → Nat → Role
  | list role, _ => role
  | role, i => ofKey? role.keys[i]?

def member : Role → String → Role
  | map role, _ => role
  | role, name => ofKey? (role.keys.find? fun key => key.name == name)

/-- What the value under a key is read as, if the key is a text at all. -/
def under (role : Role) (key : List Mark) : Role :=
  match Mark.text? key with
  | some name => role.member name
  | none => other

end Role

/-! ## Steps -/

/-- One thing that does not count is changed at one place of a value in this role. -/
inductive Step : Role → Tree → Tree → Prop where
  | reorder {role : Role} {ms ms' : List (List Mark × Tree)} (perm : ms.Perm ms') :
      Step role (.object ms) (.object ms')
  | unknown {role : Role} {before after : List (List Mark × Tree)} {key : List Mark}
      {name : String} {v : Tree} (structured : role.keys ≠ []) (text : Mark.text? key = some name)
      (unknown : ∀ k ∈ role.keys, k.name ≠ name) :
      Step role (.object (before ++ (key, v) :: after)) (.object (before ++ after))
  | absent {role : Role} {before after : List (List Mark × Tree)} {key : List Mark} {k : Key}
      (known : k ∈ role.keys) (nullable : k.nullable = true) (text : Mark.text? key = some k.name) :
      Step role (.object (before ++ (key, .null) :: after)) (.object (before ++ after))
  | item {role : Role} {before after : List Tree} {v v' : Tree} :
      Step (role.item before.length) v v' →
      Step role (.list (before ++ v :: after)) (.list (before ++ v' :: after))
  | member {role : Role} {before after : List (List Mark × Tree)} {key : List Mark} {v v' : Tree} :
      Step (role.under key) v v' →
      Step role (.object (before ++ (key, v) :: after)) (.object (before ++ (key, v') :: after))

/-- No key stands twice in an object that is read as a map. -/
inductive DistinctMaps : Role → Tree → Prop where
  | scalar {role : Role} {v : Tree} (scalar : v.IsScalar) : DistinctMaps role v
  | list {role : Role} {items : List Tree}
      (inside : ∀ i v, items[i]? = some v → DistinctMaps (role.item i) v) :
      DistinctMaps role (.list items)
  | object {role : Role} {ms : List (List Mark × Tree)}
      (distinct : ∀ value, role = .map value → (ms.map fun m => Mark.text? m.1).Nodup)
      (inside : ∀ m ∈ ms, DistinctMaps (role.under m.1) m.2) : DistinctMaps role (.object ms)

variable {role : Role} {v v' : Tree}

theorem Step.not_isScalar (h : Step role v v') : ¬ v.IsScalar := by
  cases h <;> exact id

/-- With fewer members in an object, no more keys stand there twice. -/
theorem DistinctMaps.of_sublist {ms ms' : List (List Mark × Tree)}
    (h : DistinctMaps role (.object ms)) (fewer : List.Sublist ms' ms) :
    DistinctMaps role (.object ms') := by
  cases h with
  | scalar scalar => exact scalar.elim
  | object distinct inside =>
    exact .object (fun value hr => (distinct value hr).sublist (fewer.map _))
      fun m hm => inside m (fewer.subset hm)

theorem Step.distinctMaps (h : Step role v v') (distinct : DistinctMaps role v) :
    DistinctMaps role v' := by
  induction h with
  | reorder perm =>
    cases distinct with
    | scalar scalar => exact scalar.elim
    | object distinct inside =>
      exact .object (fun value hr => (perm.map _).nodup_iff.mp (distinct value hr))
        fun m hm => inside m (perm.mem_iff.mpr hm)
  | unknown => exact distinct.of_sublist ((List.sublist_cons_self _ _).append_left _)
  | absent => exact distinct.of_sublist ((List.sublist_cons_self _ _).append_left _)
  | @item role before after v v' _ ih =>
    cases distinct with
    | scalar scalar => exact scalar.elim
    | list inside =>
      refine .list fun i w hw => ?_
      by_cases here : i = before.length
      · subst here
        have : v' = w := by simpa using hw
        rw [← this]
        exact ih (inside before.length v (by simp))
      · refine inside i w ?_
        rw [List.getElem?_append] at hw ⊢
        split at hw
        · next front =>
          rw [if_pos front]
          exact hw
        · next behind =>
          rw [if_neg behind]
          obtain ⟨k, hk⟩ : ∃ k, i - before.length = k + 1 := ⟨i - before.length - 1, by omega⟩
          rw [hk] at hw ⊢
          exact hw
  | @member role before after key v v' _ ih =>
    cases distinct with
    | scalar scalar => exact scalar.elim
    | object distinct inside =>
      refine .object (fun value hr => by simpa using distinct value hr) fun m hm => ?_
      rcases List.mem_append.mp hm with hm | hm
      · exact inside m (by simp [hm])
      rcases List.mem_cons.mp hm with rfl | hm
      · exact ih (inside (key, v) (by simp))
      · exact inside m (by simp [hm])

theorem distinctMaps_of_steps (h : Relation.ReflTransGen (Step role) v v')
    (distinct : DistinctMaps role v) : DistinctMaps role v' := by
  induction h with
  | refl => exact distinct
  | tail _ step ih => exact step.distinctMaps ih

theorem DistinctMaps.of_item {before after : List Tree}
    (h : DistinctMaps role (.list (before ++ v :: after))) :
    DistinctMaps (role.item before.length) v := by
  cases h with
  | scalar scalar => exact scalar.elim
  | list inside => exact inside before.length v (by simp)

theorem DistinctMaps.of_member {ms : List (List Mark × Tree)} {m : List Mark × Tree}
    (h : DistinctMaps role (.object ms)) (hm : m ∈ ms) : DistinctMaps (role.under m.1) m.2 := by
  cases h with
  | scalar scalar => exact scalar.elim
  | object _ inside => exact inside m hm

theorem DistinctMaps.nodup_keys {ms : List (List Mark × Tree)}
    (h : DistinctMaps (.map role) (.object ms)) : (ms.map fun m => Mark.text? m.1).Nodup := by
  cases h with
  | scalar scalar => exact scalar.elim
  | object distinct _ => exact distinct role rfl

/-! ## Insensitive decoders -/

/-- The decoder makes the same of a value after a step. -/
def Insensitive {α : Type} (role : Role) (d : Tree → Option α) : Prop :=
  ∀ v v' a, Step role v v' → DistinctMaps role v → d v = some a → d v' = some a

section
variable {α : Type} {d : Tree → Option α} {room : Nat}

/-- There are no steps in a scalar. -/
theorem insensitive_of_isScalar (h : ∀ v a, d v = some a → v.IsScalar) : Insensitive role d :=
  fun v _ a step _ made => (step.not_isScalar (h v a made)).elim

theorem insensitive_text : Insensitive role Tree.text? := by
  refine insensitive_of_isScalar fun v a made => ?_
  cases v with
  | text => trivial
  | _ => cases made

theorem insensitive_boolean : Insensitive role Tree.boolean? := by
  refine insensitive_of_isScalar fun v a made => ?_
  cases v with
  | boolean => trivial
  | _ => cases made

theorem insensitive_value : Insensitive role RuleValue.ofTree? := by
  refine insensitive_of_isScalar fun v a made => ?_
  cases v with
  | text => trivial
  | number => trivial
  | _ => cases made

theorem optional?_of_not_isScalar (h : ¬ v.IsScalar) :
    Tree.optional? d v = (d v).map some := by
  cases v with
  | null => exact (h trivial).elim
  | _ => rfl

theorem insensitive_optional (h : Insensitive role d) : Insensitive role (Tree.optional? d) := by
  intro v v' a step distinct made
  rw [optional?_of_not_isScalar step.not_isScalar, Option.map_eq_some_iff] at made
  obtain ⟨b, made, rfl⟩ := made
  have bracketed : ¬ v'.IsScalar := by cases step <;> exact id
  rw [optional?_of_not_isScalar bracketed, h v v' b step distinct made]
  rfl

theorem insensitive_list (h : ∀ i, Insensitive (role.item i) d) :
    Insensitive role (Tree.list? room d) := by
  intro v v' as step distinct made
  cases step with
  | @item _ before after v v' step =>
    simp only [Tree.list?, Option.ite_none_left_eq_some] at made ⊢
    exact ⟨made.1, mapM_replace (fun a => h _ v v' a step distinct.of_item) made.2⟩
  | _ => cases made

theorem eq_of_choice? {known : List (String × α)} {ms : List (List Mark × Tree)} {a : α}
    (made : Tree.choice? room known (.object ms) = some a) : ∃ key, ms = [(key, .null)] := by
  unfold Tree.choice? at made
  split at made
  · next h => cases h
  · next key h => exact ⟨key, Tree.object.inj h⟩
  · cases made

/-- An object with one key has no other order, and the key is no structure's. -/
theorem insensitive_choice {known : List (String × α)} :
    Insensitive .other (Tree.choice? room known) := by
  intro v v' a step distinct made
  cases step with
  | reorder perm =>
    obtain ⟨key, rfl⟩ := eq_of_choice? made
    rw [← List.singleton_perm.mp perm]
    exact made
  | unknown structured => exact (structured rfl).elim
  | absent known => cases known
  | item => cases made
  | @member _ before after key v v' step =>
    obtain ⟨key', h⟩ := eq_of_choice? made
    have null : v = .null := by
      have : (key, v) ∈ [(key', Tree.null)] := h ▸ List.mem_append_right before (by simp)
      exact congrArg Prod.snd (List.mem_singleton.mp this)
    subst null
    exact (step.not_isScalar trivial).elim

theorem map_key_of_entries {ms : List (List Mark × Tree)} {entries : List (String × α)}
    (h : ms.mapM (Tree.member? d) = some entries) :
    (ms.map fun m => Mark.text? m.1) = entries.map fun e => some e.1 := by
  rw [mapM_eq_some_iff] at h
  induction h with
  | nil => rfl
  | @cons m e ms entries hm _ ih =>
    obtain ⟨key, text, hm⟩ := Option.bind_eq_some_iff.mp hm
    obtain ⟨a, _, rfl⟩ := Option.map_eq_some_iff.mp hm
    rw [List.map_cons, List.map_cons, text, ih]

/-- Entries in another order make the same map, if no key stands twice. -/
theorem ofList_entries_perm {entries entries' : List (String × α)}
    (distinct : (entries.map Prod.fst).Nodup) (perm : entries.Perm entries') :
    (Std.ExtTreeMap.ofList entries' : NameMap α) = .ofList entries := by
  have distinct' : (entries'.map Prod.fst).Nodup := (perm.map Prod.fst).nodup_iff.mp distinct
  refine Std.ExtTreeMap.ext_getElem? fun name => Option.ext fun a => ?_
  rw [getElem?_ofList_eq_some distinct', getElem?_ofList_eq_some distinct, perm.mem_iff]

/-- The entries of a map may stand in any order. -/
theorem insensitive_map (h : Insensitive role d) :
    Insensitive (.map role) fun v =>
      (Tree.dictionary? room d v).map (fun entries => (.ofList entries : NameMap α)) := by
  intro v v' m step distinct made
  obtain ⟨entries, listed, rfl⟩ := Option.map_eq_some_iff.mp made
  cases step with
  | @reorder _ ms ms' perm =>
    simp only [Tree.dictionary?, Option.ite_none_left_eq_some] at listed
    obtain ⟨entries', listed', perm'⟩ := mapM_perm perm listed.2
    simp only [Tree.dictionary?, if_neg listed.1, listed', Option.map_some]
    have keys := distinct.nodup_keys
    rw [map_key_of_entries listed.2] at keys
    have names : (entries.map Prod.fst).Nodup := by
      refine List.Nodup.of_map some ?_
      rwa [List.map_map]
    rw [ofList_entries_perm names perm']
  | unknown structured => exact (structured rfl).elim
  | absent known => cases known
  | item => cases listed
  | @member _ before after key v v' step =>
    simp only [Tree.dictionary?, Option.ite_none_left_eq_some] at listed
    have listed' : (before ++ (key, v') :: after).mapM (Tree.member? d) = some entries := by
      refine mapM_replace (fun e he => ?_) listed.2
      obtain ⟨name, text, he⟩ := Option.bind_eq_some_iff.mp he
      obtain ⟨a, ha, rfl⟩ := Option.map_eq_some_iff.mp he
      have inside := distinct.of_member (m := (key, v)) (by simp)
      have same : Role.under (.map role) key = role := by simp [Role.under, text, Role.member]
      rw [same] at step inside
      simp [Tree.member?, text, h v v' a step inside ha]
    simp only [Tree.dictionary?, if_neg listed.1, listed', Option.map_some]

end

/-! ## Structures -/

/-- The layout of a structure makes of a property what the key of the role says. -/
structure Key.Names {α : Type} (blank : α) (k : Key) (p : Property α) : Prop where
  name : k.name = p.name
  insensitive : Insensitive k.role p.value?
  absent : k.nullable = true → p.required = false ∧
    ∃ x, p.value? .null = some x ∧ p.put blank x = blank

section
variable {α : Type} {l : Layout α} {room : Nat}

theorem member_eq {k : Key} {name : String} (found : role.keys.find? (fun k => k.name == name) =
    some k) : role.member name = k.role := by
  cases role with
  | map value => cases found
  | _ => simp only [Role.member, found, Role.ofKey?]

theorem item_eq {k : Key} {i : Nat} (found : role.keys[i]? = some k) : role.item i = k.role := by
  cases role with
  | list value => cases found
  | _ => simp only [Role.item, found, Role.ofKey?]

theorem insensitive_record (independent : l.Independent)
    (h : List.Forall₂ (Key.Names l.blank) role.keys l.properties) :
    Insensitive role (l.record? room) := by
  intro v v' a step distinct made
  have found (name : String) : (role.keys.find? (fun k => k.name == name) = none ∧
      l.property? name = none) ∨ ∃ k p, role.keys.find? (fun k => k.name == name) = some k ∧
        l.property? name = some p ∧ k.Names l.blank p :=
    find?_related h fun k p hk => by rw [hk.name]
  cases step with
  | @reorder _ ms ms' perm =>
    simp only [Layout.record?, Option.ite_none_left_eq_some] at made ⊢
    obtain ⟨named, hn, made'⟩ := Option.bind_eq_some_iff.mp made.2
    obtain ⟨named', hn', perm'⟩ := mapM_perm perm hn
    refine ⟨made.1, ?_⟩
    rw [hn', Option.bind_some, ← Layout.ofMembers?_perm independent perm']
    exact made'
  | @unknown _ before after key name v structured text unknown =>
    simp only [Layout.record?, Option.ite_none_left_eq_some] at made ⊢
    rw [Layout.ofMembers?_middle independent text] at made
    refine ⟨made.1, made.2.symm.trans ?_ |>.symm⟩
    rcases found name with ⟨_, hp⟩ | ⟨k, p, hk, _, _⟩
    · simp only [Layout.ofMembers?_unknown hp]
    · exact (unknown k (List.mem_of_find?_eq_some hk) (by simpa using List.find?_some hk)).elim
  | @absent _ before after key k known nullable text =>
    simp only [Layout.record?, Option.ite_none_left_eq_some] at made ⊢
    rw [Layout.ofMembers?_middle independent text, Option.bind_eq_some_iff] at made
    obtain ⟨room, named, hn, made⟩ := made
    obtain ⟨i, hi⟩ := List.mem_iff_getElem?.mp known
    obtain ⟨p, hp, hk⟩ := getElem?_related h.flip hi
    obtain ⟨optional, x, value, blank⟩ := hk.absent nullable
    have hp : l.property? k.name = some p := by
      rw [hk.name]
      exact independent.property?_name (List.mem_of_getElem? hp)
    rw [hn]
    exact ⟨room, Layout.ofMembers?_absent independent hp optional value blank made⟩
  | @item _ before after v v' step =>
    simp only [Layout.record?, Option.ite_none_left_eq_some] at made ⊢
    refine ⟨made.1, Layout.ofItems?_replace (fun p hp x hx => ?_) made.2⟩
    obtain ⟨k, hk, names⟩ := getElem?_related h hp
    have inside := distinct.of_item
    rw [item_eq hk] at step inside
    exact names.insensitive v v' x step inside hx
  | @member _ before after key v v' step =>
    simp only [Layout.record?, Option.ite_none_left_eq_some] at made ⊢
    refine ⟨made.1, ?_⟩
    cases text : Mark.text? key with
    | none => simp [Tree.member?, text] at made
    | some name =>
      rw [Layout.ofMembers?_middle independent text, Option.bind_eq_some_iff] at made ⊢
      obtain ⟨_, named, hn, made⟩ := made
      refine ⟨named, hn, Layout.ofMembers?_replace (fun p hp x hx => ?_) made⟩
      rcases found name with ⟨_, none⟩ | ⟨k, q, hk, hq, names⟩
      · rw [hp] at none
        cases none
      · cases hp.symm.trans hq
        have inside := distinct.of_member (m := (key, v)) (by simp)
        have same : role.under key = k.role := by
          simp only [Role.under, text]
          exact member_eq hk
        rw [same] at step inside
        exact names.insensitive v v' x step inside hx

/-- A key that may say `null` for an absent value. -/
theorem names_optional {α : Type} {blank : α} {name : String} {role : Role} {β : Type}
    {d : Tree → Option β} {put : α → Option β → α} (h : Insensitive role d)
    (absent : put blank none = blank) : Key.Names blank ⟨name, true, role⟩
      ⟨name, false, Option β, Tree.optional? d, put⟩ where
  name := rfl
  insensitive := insensitive_optional h
  absent _ := ⟨rfl, none, rfl, absent⟩

/-- A key that may not. -/
theorem names_plain {α : Type} {blank : α} {name : String} {required : Bool} {role : Role}
    {β : Type} {d : Tree → Option β} {put : α → β → α} (h : Insensitive role d) :
    Key.Names blank ⟨name, false, role⟩ ⟨name, required, β, d, put⟩ where
  name := rfl
  insensitive := h
  absent := nofun

end

/-! ## Rules and grammars -/

theorem independent_rule {room : Nat} {content member : Tree → Option Rule} :
    (Rule.layout room content member).Independent := by
  unfold Layout.Independent Rule.layout
  simp [Property.Apart]

theorem insensitive_ruleRecord {room inner : Nat} {content member : Tree → Option Rule}
    (hc : Insensitive .rule content) (hm : Insensitive .rule member) :
    Insensitive .rule ((Rule.layout inner content member).record? room) := by
  have members : Insensitive (.list .rule) (Tree.list? inner member) :=
    insensitive_list fun _ => hm
  exact insensitive_record independent_rule <|
    .cons (names_plain insensitive_choice) <|
    .cons (names_optional insensitive_value rfl) <|
    .cons (names_optional insensitive_text rfl) <|
    .cons (names_optional hc rfl) <|
    .cons (names_plain members) <|
    .cons (names_optional insensitive_boolean rfl) <|
    .cons (names_optional insensitive_text rfl) <|
    .cons (names_optional insensitive_text rfl) .nil

theorem insensitive_rule : (room : Nat) → Insensitive .rule (Rule.ofTree? room)
  | 0 => insensitive_ruleRecord nofun nofun
  | 1 => insensitive_ruleRecord (insensitive_rule 0) (insensitive_rule 0)
  | room + 2 => insensitive_ruleRecord (insensitive_rule (room + 1)) (insensitive_rule room)

theorem independent_grammar {room : Nat} : (Grammar.layout room).Independent := by
  unfold Layout.Independent Grammar.layout
  simp [Property.Apart, Grammar.headProperties, Grammar.tailProperties]

theorem insensitive_rules (room : Nat) : Insensitive (.list .rule) (Grammar.rules? room) :=
  insensitive_list fun _ => insensitive_rule _

theorem insensitive_names (room : Nat) : Insensitive .other (Grammar.names? room) :=
  insensitive_list fun _ => insensitive_text

theorem optional?_map {α β : Type} {d : Tree → Option α} {f : α → β} :
    (fun v => (Tree.optional? d v).map (Option.map f)) =
      Tree.optional? fun v => (d v).map f := by
  funext v
  cases v with
  | null => rfl
  | _ => simp only [Tree.optional?, Option.map_map]; rfl

theorem insensitive_grammar (room : Nat) : Insensitive .grammar (Grammar.ofTree? room) := by
  have rules (room : Nat) : Insensitive (.map .rule) fun v =>
      (Grammar.ruleEntries? room v).map (fun entries => (.ofList entries : NameMap Rule)) :=
    insensitive_map (insensitive_rule _)
  have reserved (room : Nat) : Insensitive (.map (.list .rule)) fun v =>
      (Tree.optional? (Tree.dictionary? room (Grammar.rules? (room - 1))) v).map
        (Option.map fun entries => (.ofList entries : NameMap (List Rule))) := by
    rw [optional?_map]
    exact insensitive_optional (insensitive_map (insensitive_rules _))
  have precedences (room : Nat) : Insensitive (.list (.list .rule))
      (Tree.list? room (Grammar.rules? (room - 1))) := insensitive_list fun _ => insensitive_rules _
  have conflicts (room : Nat) : Insensitive .other
      (Tree.list? room (Grammar.names? (room - 1))) := insensitive_list fun _ => insensitive_names _
  exact insensitive_record independent_grammar <|
    .cons (names_optional insensitive_text rfl) <|
    .cons (names_plain insensitive_text) <|
    .cons (names_optional insensitive_text rfl) <|
    .cons (names_plain (rules _)) <|
    .cons (names_optional (insensitive_rules _) rfl) <|
    .cons (names_optional (insensitive_rules _) rfl) <|
    .cons (names_optional (insensitive_names _) rfl) <|
    .cons (names_optional (precedences _) rfl) <|
    .cons (names_optional (conflicts _) rfl) <|
    .cons ⟨rfl, reserved _, fun _ => ⟨rfl, none, rfl, rfl⟩⟩ <|
    .cons (names_optional insensitive_text rfl) <|
    .cons (names_optional (insensitive_names _) rfl) .nil

end Document

/-- **What does not count in a document leaves no trace in its grammar.** -/
theorem Grammar.parse_rearranged {text : String} {g : Grammar}
    (accepted : Grammar.parse text = .ok g) : (∃ v : Tree, v.Spelled text) ∧
    ∀ (v v' : Tree) (text' : String), v.Spelled text → Document.DistinctMaps .grammar v →
      Relation.ReflTransGen (Document.Step .grammar) v v' → v'.Spelled text' →
      Grammar.parse text' = .ok g := by
  obtain ⟨w, spelled, made⟩ := Grammar.parse_eq_ok.mp accepted
  refine ⟨⟨w, spelled⟩, fun v v' text' hv distinct steps hv' => ?_⟩
  cases hv.unique spelled
  suffices Grammar.ofTree? Rule.roomInDocument v' = some g from
    Grammar.parse_eq_ok.mpr ⟨v', hv', this⟩
  clear hv'
  induction steps with
  | refl => exact made
  | tail before step ih =>
    exact Document.insensitive_grammar _ _ _ g step
      (Document.distinctMaps_of_steps before distinct) ih

/-! ## An example -/

namespace Document

def blankRule : Value := .object [("type", .text "BLANK")]

def notedRule : Value := .object [("note", .boolean true), ("type", .text "BLANK")]

/-- A document of two rules, one of them with a note. -/
def noted : Value :=
  .object [("name", .text "x"), ("rules", .object [("a", notedRule), ("b", blankRule)])]

/-- The rules in another order and before the name, and none with a note. -/
def tidied : Value :=
  .object [("rules", .object [("b", blankRule), ("a", blankRule)]), ("name", .text "x")]

theorem distinctMaps_noted : DistinctMaps .grammar noted.tree := by
  have a : DistinctMaps .rule notedRule.tree :=
    .object nofun <| List.forall_mem_cons.mpr
      ⟨.scalar trivial, List.forall_mem_singleton.mpr (.scalar trivial)⟩
  have b : DistinctMaps .rule blankRule.tree :=
    .object nofun (List.forall_mem_singleton.mpr (.scalar trivial))
  have rules : DistinctMaps (.map .rule) (Value.object [("a", notedRule), ("b", blankRule)]).tree :=
    .object (fun _ _ => by decide) (List.forall_mem_cons.mpr ⟨a, List.forall_mem_singleton.mpr b⟩)
  exact .object nofun
    (List.forall_mem_cons.mpr ⟨.scalar trivial, List.forall_mem_singleton.mpr rules⟩)

/-- The note is removed, then the rules change places, then the keys around them. -/
theorem steps_noted : Relation.ReflTransGen (Step .grammar) noted.tree tidied.tree := by
  have unnoted : Step .rule notedRule.tree blankRule.tree :=
    @Step.unknown .rule [] _ (Mark.ofText "note") "note" _ nofun (Mark.text?_ofText _) (by decide)
  have inside : Step (.map .rule) (Value.object [("a", notedRule), ("b", blankRule)]).tree
      (Value.object [("a", blankRule), ("b", blankRule)]).tree :=
    @Step.member (.map .rule) [] _ (Mark.ofText "a") _ _ unnoted
  have swapped : Step (.map .rule) (Value.object [("a", blankRule), ("b", blankRule)]).tree
      (Value.object [("b", blankRule), ("a", blankRule)]).tree := .reorder (.swap _ _ _)
  have within {rules rules' : Value} (h : Step (.map .rule) rules.tree rules'.tree) :
      Step .grammar (Value.object [("name", .text "x"), ("rules", rules)]).tree
        (Value.object [("name", .text "x"), ("rules", rules')]).tree :=
    @Step.member .grammar [_] [] (Mark.ofText "rules") _ _ h
  exact .head (within inside) (.head (within swapped) (.single (.reorder (.swap _ _ _))))

end Document

theorem Grammar.parse_rearranged_noted : ∃ g,
    Grammar.parse (Document.noted.render 0) = .ok g ∧
    Grammar.parse (Document.tidied.render 0) = .ok g := by
  have readable : (Grammar.parse (Document.noted.render 0)).isOk = true := by decide +kernel
  cases accepted : Grammar.parse (Document.noted.render 0) with
  | error e =>
    rw [accepted] at readable
    cases readable
  | ok g =>
    exact ⟨g, rfl, (Grammar.parse_rearranged accepted).2 _ _ _ (Value.spelled_render _ 0)
      Document.distinctMaps_noted Document.steps_noted (Value.spelled_render _ 0)⟩

end GrammarArtifact
