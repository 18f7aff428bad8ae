import Mathlib.Data.List.Forall2
import Mathlib.Data.List.Nodup
import GrammarArtifact.Proofs.Json.Container

/-! # Records

A record is made of the values under its known keys: each is put into the place of its
property, and what is absent stays as it is in the blank record. A form reads records as
its layout says if each of its fields reads as a property does. -/

namespace GrammarArtifact.Json
variable {α β : Type}

/-- In related lists the searches for what the relation does not tell apart have related results. -/
theorem find?_related {γ δ : Type*} {R : γ → δ → Prop} {p : γ → Bool} {q : δ → Bool} {as : List γ}
    {bs : List δ} (h : List.Forall₂ R as bs) (same : ∀ a b, R a b → p a = q b) :
    (as.find? p = none ∧ bs.find? q = none) ∨
    ∃ a b, as.find? p = some a ∧ bs.find? q = some b ∧ R a b := by
  induction h with
  | nil => exact .inl ⟨rfl, rfl⟩
  | @cons a b as bs hab _ ih =>
    rw [List.find?_cons, List.find?_cons, same a b hab]
    cases q b with
    | true => exact .inr ⟨a, b, rfl, rfl, hab⟩
    | false => exact ih

/-- A property of a record: what is made of the value under its key, and where that is put. -/
structure Property (α : Type) where
  name : String
  required : Bool
  Value : Type
  value? : Tree → Option Value
  put : α → Value → α

namespace Property

def assign? (p : Property α) (a : α) (v : Tree) : Option α := (p.value? v).map (p.put a)

/-- A field reads what the property says. -/
structure Depicts (p : Property α) (field : Json.Field α) : Prop where
  name : field.name = p.name
  required : field.required = p.required
  reads : ∀ a, Reader.Reads (field.read a) (p.assign? a)

/-- A field that reads a value and puts it into its place. -/
theorem Depicts.put {p : Property α} {r : Reader p.Value} (h : Reader.Reads r p.value?) :
    p.Depicts ⟨p.name, p.required, fun a => do return p.put a (← r)⟩ where
  name := rfl
  required := rfl
  reads a := h.map (p.put a)

/-- The same for a field that puts what is made of the value. -/
theorem Depicts.putMap {p : Property α} {r : Reader β} {d : Tree → Option β}
    {f : β → p.Value} (h : Reader.Reads r d) (made : ∀ v, p.value? v = (d v).map f) :
    p.Depicts ⟨p.name, p.required, fun a => do return p.put a (f (← r))⟩ where
  name := rfl
  required := rfl
  reads a := by
    have assigned : p.assign? a = fun v => (d v).map fun x => p.put a (f x) := by
      funext v
      rw [assign?, made, Option.map_map]
      rfl
    rw [assigned]
    exact h.map fun x => p.put a (f x)

end Property

/-- The properties of a record, and the record in which all of them are absent. -/
structure Layout (α : Type) where
  properties : List (Property α)
  blank : α

namespace Layout

/-- The property that a key names. -/
def property? (l : Layout α) (key : String) : Option (Property α) :=
  l.properties.find? fun p => p.name == key

def known (l : Layout α) (named : List (String × Tree)) : List (Property α × Tree) :=
  named.filterMap fun m => (l.property? m.1).map (·, m.2)

def names (given : List (Property α × Tree)) : List String := given.map (·.1.name)

def assign? (a : α) (given : List (Property α × Tree)) : Option α :=
  given.foldlM (fun a g => g.1.assign? a g.2) a

/-- No property is given twice, and no required one is absent. -/
def Complete (l : Layout α) (given : List (Property α × Tree)) : Prop :=
  (names given).Nodup ∧ ∀ p ∈ l.properties, p.required = true → p.name ∈ names given

instance (l : Layout α) (given : List (Property α × Tree)) : Decidable (l.Complete given) :=
  inferInstanceAs (Decidable (_ ∧ _))

/-- The record that the members of an object make. -/
def ofMembers? (l : Layout α) (named : List (String × Tree)) : Option α :=
  if l.Complete (l.known named) then assign? l.blank (l.known named) else none

/-- The record that the items of a list make, one for each property up to some optional ones. -/
def ofItems? (l : Layout α) (items : List Tree) : Option α :=
  if items.length ≤ l.properties.length ∧
      ∀ p ∈ l.properties.drop items.length, p.required = false then
    assign? l.blank (l.properties.zip items)
  else none

/-- The record that a value makes, if it may be opened. -/
def record? (room : Nat) (l : Layout α) : Tree → Option α
  | .list items => if room = 0 then none else l.ofItems? items
  | .object members =>
    if room = 0 then none else (members.mapM (Tree.member? some)).bind l.ofMembers?
  | _ => none

/-- A record is not made of a scalar. -/
theorem not_isScalar {l : Layout α} {room : Nat} {v : Tree} {a : α}
    (h : l.record? room v = some a) : ¬ v.IsScalar := by
  cases v with
  | list => exact id
  | object => exact id
  | _ => cases h

/-- A form reads records as the layout says. -/
structure Describes (l : Layout α) (form : RecordForm α) : Prop where
  fields : List.Forall₂ Property.Depicts l.properties form.fields
  blank : form.blank = l.blank

variable {l : Layout α} {form : RecordForm α} {room : Nat}

theorem mem_of_property? {p : Property α} {key : String} (h : l.property? key = some p) :
    p ∈ l.properties :=
  List.mem_of_find?_eq_some h

/-- A property is found by its name, if no other has the same. -/
theorem property?_name (distinct : (l.properties.map Property.name).Nodup) {p : Property α}
    (hp : p ∈ l.properties) : l.property? p.name = some p := by
  cases found : l.property? p.name with
  | none => simpa using List.find?_eq_none.mp found p hp
  | some q =>
    have same : q.name = p.name := by simpa using List.find?_some found
    rw [List.inj_on_of_nodup_map distinct (mem_of_property? found) hp same]

theorem assign?_cons {a : α} {p : Property α} {v : Tree} {given : List (Property α × Tree)} :
    assign? a ((p, v) :: given) = (p.assign? a v).bind (assign? · given) := rfl

theorem known_cons {key : String} {v : Tree} {named : List (String × Tree)} :
    l.known ((key, v) :: named) = match l.property? key with
      | none => l.known named
      | some p => (p, v) :: l.known named := by
  unfold known
  cases h : l.property? key with
  | none => simp [h]
  | some p => simp [h]

/-- A required field is lacking if a required property is. -/
theorem find?_lacking {properties : List (Property α)} {fields : List (Json.Field α)}
    (h : List.Forall₂ Property.Depicts properties fields) {seen : List String} :
    (fields.find? fun f => f.required && !seen.contains f.name) = none ↔
      ∀ p ∈ properties, p.required = true → p.name ∈ seen := by
  rw [List.find?_eq_none]
  induction h with
  | nil => simp
  | cons hp _ ih =>
    rw [List.forall_mem_cons, List.forall_mem_cons, hp.required, hp.name, ih]
    simp

end Layout

namespace Reader
open Json.Tree
variable {l : Layout α} {form : RecordForm α} {cs : List Char}

/-! ## Records in order -/

/-- What the items that are left in a list make of a record: one for each property that is left, up
to some optional ones. -/
def Fills (properties : List (Property α)) (record : α) (items : List Tree) (a : α) : Prop :=
  (items.length ≤ properties.length ∧ ∀ p ∈ properties.drop items.length, p.required = false) ∧
    Layout.assign? record (properties.zip items) = some a

section
variable {p : Property α} {properties : List (Property α)} {record a : α} {items : List Tree}

theorem fills_nil : Fills [] record items a ↔ items = [] ∧ a = record := by
  simp [Fills, Layout.assign?, @eq_comm _ record]

theorem fills_none : Fills (p :: properties) record [] a ↔
    p.required = false ∧ Fills properties record [] a := by
  simp [Fills, and_assoc]

theorem fills_cons {v : Tree} : Fills (p :: properties) record (v :: items) a ↔
    ∃ record', p.assign? record v = some record' ∧ Fills properties record' items a := by
  simp only [Fills, List.length_cons, Nat.add_le_add_iff_right, List.drop_succ_cons,
    List.zip_cons_cons, Layout.assign?_cons, Option.bind_eq_some_iff]
  exact ⟨fun ⟨few, record', hp, ha⟩ => ⟨record', hp, few, ha⟩,
    fun ⟨record', hp, few, ha⟩ => ⟨few, record', hp, ha⟩⟩

end

/-- In front of the closing bracket stands no item. -/
theorem itemsBegin_closing {behind rest : List Char} :
    ItemsBegin items false (']' :: behind) rest ↔ items = [] ∧ rest = behind := by
  have closing : dropBlanks (']' :: behind) = ']' :: behind := dropBlanks_cons rfl behind
  constructor
  · intro h
    cases items with
    | cons v vs => exact (not_items_of_closing closing h).elim
    | nil =>
      cases closing.symm.trans h
      exact ⟨rfl, rfl⟩
  · rintro ⟨rfl, rfl⟩
    exact closing

/-- The values of the properties that are left, and the end of the list. -/
theorem exact_values {fields : List (Json.Field α)} {properties : List (Property α)}
    (h : List.Forall₂ Property.Depicts properties fields) {extent : String} {place : Nat}
    {record : α} :
    Exact (do let a ← values extent fields place record; close .list; return a) cs fun a rest =>
      ∃ items, ItemsBegin items (place = 0) cs rest ∧ Fills properties record items a := by
  induction h generalizing cs place record with
  | nil =>
    refine ((exact_close .list).bind (fun _ _ _ => exact_pure)).congr fun a rest => ?_
    simp only [fills_nil]
    constructor
    · rintro ⟨_, _, closing, rfl, rfl⟩
      exact ⟨[], closing, rfl, rfl⟩
    · rintro ⟨_, hi, rfl, rfl⟩
      exact ⟨(), rest, hi, rfl, rfl⟩
  | @cons p field properties fields hp _ ih =>
    unfold values
    rw [bind_assoc]
    refine ((exact_nextElement _).bind (R := fun more mid a rest => if more then
      ∃ record' behind, Spells (p.assign? record) mid record' behind ∧
        ∃ items, ItemsBegin items false behind rest ∧ Fills properties record' items a
      else p.required = false ∧
        ∃ items, ItemsBegin items false mid rest ∧ Fills properties record items a)
      fun more mid _ => ?_).congr fun a rest => ?_
    · cases more with
      | true =>
        simp only [if_true, bind_assoc]
        exact (hp.reads record mid).bind fun _ _ _ => ih
      | false =>
        simp only [Bool.false_eq_true, if_false]
        cases required : field.required with
        | true =>
          rw [if_pos rfl]
          refine (refuses_failRecord _).bind.exact fun _ _ no => ?_
          rw [← hp.required, required] at no
          cases no.1
        | false =>
          simp only [Bool.false_eq_true, if_false]
          refine Exact.congr ih fun a rest => ?_
          rw [← hp.required, required]
          simp
    · constructor
      · rintro ⟨more, mid, hn, hr⟩
        cases more with
        | false =>
          obtain ⟨optional, items, hi, fills⟩ := hr
          obtain ⟨behind, closing, rfl⟩ := hn
          rw [closing] at hi
          obtain ⟨rfl, rfl⟩ := itemsBegin_closing.mp hi
          exact ⟨[], closing, fills_none.mpr ⟨optional, fills⟩⟩
        | true =>
          obtain ⟨record', behind, ⟨v, hv, hd⟩, items, hi, fills⟩ := hr
          exact ⟨v :: items, itemsBegin_cons.mpr ⟨mid, behind, hn, hv, hi⟩,
            fills_cons.mpr ⟨record', hd, fills⟩⟩
      · rintro ⟨items, hi, fills⟩
        cases items with
        | nil =>
          obtain ⟨optional, fills⟩ := fills_none.mp fills
          exact ⟨false, _, itemsBegin_nil.mp hi, optional, [], dropBlanks_cons rfl rest, fills⟩
        | cons v items =>
          obtain ⟨mid, behind, hn, hv, hi⟩ := itemsBegin_cons.mp hi
          obtain ⟨record', hd, fills⟩ := fills_cons.mp fills
          exact ⟨true, mid, hn, record', behind, ⟨v, hv, hd⟩, items, hi, fills⟩

/-! ## Records under keys -/

/-- What the members that are left in an object add: the known keys among them and their values. -/
def Adds (l : Layout α) (seen : List String) (record : α) (members : List (List Mark × Tree))
    (out : List String × α) : Prop :=
  ∃ named, members.mapM (member? some) = some named ∧
    out.1 = (Layout.names (l.known named)).reverse ++ seen ∧ out.1.Nodup ∧
    Layout.assign? record (l.known named) = some out.2

theorem adds_cons {seen : List String} {record : α} {m : List Mark × Tree}
    {members : List (List Mark × Tree)} {out : List String × α} :
    Adds l seen record (m :: members) out ↔ ∃ key, Mark.text? m.1 = some key ∧
      match l.property? key with
      | none => Adds l seen record members out
      | some p => ∃ record', p.assign? record m.2 = some record' ∧
          Adds l (p.name :: seen) record' members out := by
  have entry : member? some m = (Mark.text? m.1).map (·, m.2) := by
    unfold member?
    cases Mark.text? m.1 <;> rfl
  unfold Adds
  rw [List.mapM_cons, entry]
  cases Mark.text? m.1 with
  | none => simp
  | some key =>
    simp only [Option.map_some, Option.bind_eq_bind, Option.bind_some, Option.pure_def,
      Option.bind_eq_some_iff, Option.some.injEq, exists_eq_left']
    cases known : l.property? key with
    | none =>
      constructor
      · rintro ⟨_, ⟨named, hn, rfl⟩, hs, hd, ha⟩
        simp only [Layout.known_cons, known] at hs ha
        exact ⟨named, hn, hs, hd, ha⟩
      · rintro ⟨named, hn, hs, hd, ha⟩
        exact ⟨_, ⟨named, hn, rfl⟩, by simpa [Layout.known_cons, known] using hs, hd,
          by simpa [Layout.known_cons, known] using ha⟩
    | some p =>
      constructor
      · rintro ⟨_, ⟨named, hn, rfl⟩, hs, hd, ha⟩
        simp only [Layout.known_cons, known, Layout.assign?_cons, Option.bind_eq_some_iff] at hs ha
        obtain ⟨record', hp, ha⟩ := ha
        exact ⟨record', hp, named, hn, by simpa [Layout.names] using hs, hd, ha⟩
      · rintro ⟨record', hp, named, hn, hs, hd, ha⟩
        refine ⟨_, ⟨named, hn, rfl⟩, ?_, hd, ?_⟩
        · simpa [Layout.known_cons, known, Layout.names] using hs
        · simpa [Layout.known_cons, known, Layout.assign?_cons, hp] using ha

theorem Adds.notMem {seen : List String} {key : String} {record : α}
    {members : List (List Mark × Tree)} {out : List String × α}
    (h : Adds l (key :: seen) record members out) : key ∉ seen := by
  obtain ⟨named, _, hs, distinct, _⟩ := h
  rw [hs] at distinct
  exact (List.nodup_cons.mp (List.nodup_append.mp distinct).2.1).1

/-- What is left of an object behind a key with this text, if the key is known or unknown. -/
def MemberAdds (l : Layout α) (seen : List String) (record : α) (key : String)
    (value : List Char) (out : List String × α) (mid : List Char) : Prop :=
  ∃ v behind, v.Begins value behind ∧ ∃ rest, mid = '\x7d' :: rest ∧ ∃ ms,
    MembersBegin ms false behind rest ∧
    match l.property? key with
    | none => Adds l seen record ms out
    | some p => ∃ record', p.assign? record v = some record' ∧
        Adds l (p.name :: seen) record' ms out

/-- A member behind its key, given that the members after it are read. -/
theorem exact_memberValue (h : List.Forall₂ Property.Depicts l.properties form.fields)
    {bound : List Char} {seen : List String} {record : α} {key : String} (distinct : seen.Nodup)
    (enough : cs.length ≤ bound.length)
    (ih : ∀ (cs : List Char) seen record, seen.Nodup → cs.length ≤ bound.length →
      Exact (members form.fields bound false seen record) cs fun out mid => ∃ rest,
        mid = '\x7d' :: rest ∧ ∃ ms, MembersBegin ms false cs rest ∧ Adds l seen record ms out) :
    Exact (match form.fields.find? fun field => field.name == key with
      | none => do
        colon
        skipValue
        members form.fields bound false seen record
      | some field =>
        if seen.contains key then failRecord (.repeatedField key)
        else do
          colon
          members form.fields bound false (key :: seen) (← field.read record)) cs fun out mid =>
      ∃ value, dropBlanks cs = ':' :: value ∧ MemberAdds l seen record key value out mid := by
  have found : (l.property? key = none ∧ (form.fields.find? fun f => f.name == key) = none) ∨
      ∃ p field, l.property? key = some p ∧
        (form.fields.find? fun f => f.name == key) = some field ∧ p.Depicts field :=
    find?_related h fun p field hp => by rw [hp.name]
  rcases found with ⟨hp, hf⟩ | ⟨p, field, hp, hf, depicts⟩
  · rw [hf]
    refine (exact_colon.bind fun _ value colon => exact_skipValue.bind fun _ behind hv =>
      ih behind seen record distinct ?_).congr fun out mid => ?_
    · obtain ⟨v, hv⟩ := hv
      have h₁ := (behind_of_dropBlanks colon).length_lt
      have h₂ := hv.behind.length_lt
      omega
    · simp only [MemberAdds, hp]
      constructor
      · rintro ⟨_, value, colon, _, behind, ⟨v, hv⟩, hr⟩
        exact ⟨value, colon, v, behind, hv, hr⟩
      · rintro ⟨value, colon, v, behind, hv, hr⟩
        exact ⟨(), value, colon, (), behind, ⟨v, hv⟩, hr⟩
  · obtain rfl : p.name = key := by simpa using List.find?_some hp
    rw [hf]
    dsimp only
    simp only [MemberAdds, hp]
    by_cases repeated : seen.contains p.name = true
    · rw [if_pos repeated]
      refine (refuses_failRecord _).exact fun out mid no => ?_
      obtain ⟨_, _, _, _, _, _, _, _, _, _, _, adds⟩ := no
      exact adds.notMem (by simpa using repeated)
    · rw [if_neg repeated]
      have distinct' : (p.name :: seen).Nodup :=
        List.nodup_cons.mpr ⟨by simpa using repeated, distinct⟩
      refine (exact_colon.bind fun _ value colon => (depicts.reads record value).bind
        fun record' behind hv => ih behind _ _ distinct' ?_).congr fun out mid => ?_
      · obtain ⟨v, hv, _⟩ := hv
        have h₁ := (behind_of_dropBlanks colon).length_lt
        have h₂ := hv.behind.length_lt
        omega
      · constructor
        · rintro ⟨_, value, colon, record', behind, ⟨v, hv, hd⟩, rest, rfl, ms, hm, adds⟩
          exact ⟨value, colon, v, behind, hv, rest, rfl, ms, hm, record', hd, adds⟩
        · rintro ⟨value, colon, v, behind, hv, rest, rfl, ms, hm, record', hd, adds⟩
          exact ⟨(), value, colon, record', behind, ⟨v, hv, hd⟩, rest, rfl, ms, hm, adds⟩

/-- The members that are left in an object, up to the closing bracket. -/
theorem exact_members (h : List.Forall₂ Property.Depicts l.properties form.fields)
    {bound : List Char} {first : Bool} {seen : List String} {record : α} (distinct : seen.Nodup)
    (enough : cs.length ≤ bound.length) :
    Exact (members form.fields bound first seen record) cs fun out mid => ∃ rest,
      mid = '\x7d' :: rest ∧ ∃ ms, MembersBegin ms first cs rest ∧ Adds l seen record ms out := by
  induction bound generalizing cs first seen record with
  | nil =>
    cases List.length_eq_zero_iff.mp (Nat.le_zero.mp enough)
    refine (refuses_fail _).exact ?_
    rintro _ _ ⟨rest, _, ms, h, _⟩
    exact ne_nil_of_members h rfl
  | cons _ bound ih =>
    refine ((exact_nextKey first).bind (R := fun more mid out end' => if more then
      ∃ key value s, KeyBegins key mid value ∧ Mark.text? key = some s ∧
        MemberAdds l seen record s value out end'
      else out = (seen, record) ∧ end' = mid) fun more mid hn => ?_).congr fun out end' => ?_
    · cases more with
      | false => exact exact_pure.congr (by simp)
      | true =>
        have h₁ := hn.length_le
        obtain ⟨body, rfl⟩ := hn.quote
        rw [List.length_cons] at enough h₁
        refine (exact_string.bind fun s behind hw => exact_memberValue h distinct ?_
          fun _ _ _ => ih).congr fun out end' => ?_
        · obtain ⟨key, written, _⟩ := hw
          have h₂ := (behind_of_written written).length_lt
          omega
        · have quote : dropBlanks ('"' :: body) = '"' :: body := dropBlanks_cons rfl body
          constructor
          · rintro ⟨s, behind, ⟨key, written, hs⟩, value, colon, hr⟩
            exact ⟨key, value, s, ⟨body, behind, quote, written, colon⟩, hs, hr⟩
          · rintro ⟨key, value, s, ⟨_, behind, quote', written, colon⟩, hs, hr⟩
            cases quote.symm.trans quote'
            exact ⟨s, behind, ⟨key, written, hs⟩, value, colon, hr⟩
    · constructor
      · rintro ⟨more, mid, hn, hr⟩
        cases more with
        | false =>
          obtain ⟨rfl, rfl⟩ := hr
          obtain ⟨rest, closing, rfl⟩ := hn
          exact ⟨rest, closing, [], closing, [], rfl, rfl, distinct, rfl⟩
        | true =>
          obtain ⟨key, value, s, hk, hs, v, behind, hv, rest, rfl, ms, hm, adds⟩ := hr
          exact ⟨rest, rfl, (key, v) :: ms,
            membersBegin_cons.mpr ⟨mid, value, behind, hn, hk, hv, hm⟩,
            adds_cons.mpr ⟨s, hs, adds⟩⟩
      · rintro ⟨rest, rfl, ms, hm, adds⟩
        cases ms with
        | nil =>
          obtain ⟨_, h, hs, _, ha⟩ := adds
          cases h
          exact ⟨false, _, membersBegin_nil.mp hm, Prod.ext hs (Option.some.inj ha).symm, rfl⟩
        | cons m ms =>
          obtain ⟨key, v⟩ := m
          obtain ⟨mid, value, behind, hn, hk, hv, hm⟩ := membersBegin_cons.mp hm
          obtain ⟨s, hs, adds⟩ := adds_cons.mp adds
          exact ⟨true, mid, hn, key, value, s, hk, hs, v, behind, hv, rest, rfl, ms, hm, adds⟩

/-- The members of an object, of which no required one may be absent. -/
theorem exact_fields (h : l.Describes form) : Exact (fields form) cs fun a mid => ∃ rest,
    mid = '\x7d' :: rest ∧ ∃ ms, MembersBegin ms true cs rest ∧
      (ms.mapM (member? some)).bind l.ofMembers? = some a := by
  unfold fields
  refine exact_get fun _ => ?_
  refine ((exact_members h.fields List.nodup_nil le_rfl).bind (R := fun out mid a rest =>
    (∀ p ∈ l.properties, p.required = true → p.name ∈ out.1) ∧ a = out.2 ∧ rest = mid)
    fun out mid _ => ?_).congr fun a mid => ?_
  · obtain ⟨seen, record⟩ := out
    dsimp only
    rw [← Layout.find?_lacking h.fields]
    cases form.fields.find? fun field => field.required && !seen.contains field.name with
    | none => exact exact_pure.congr (by simp)
    | some field => exact (refuses_failRecord _).exact (by simp)
  · constructor
    · rintro ⟨⟨seen, record⟩, _, ⟨rest, rfl, ms, hm, named, hn, hs, distinct, ha⟩, present, rfl,
        rfl⟩
      rw [List.append_nil] at hs
      dsimp only at hs distinct present
      rw [hs] at distinct present
      have complete : l.Complete (l.known named) :=
        ⟨List.nodup_reverse.mp distinct, by simpa using present⟩
      refine ⟨rest, rfl, ms, hm, ?_⟩
      rw [hn, Option.bind_some, Layout.ofMembers?, if_pos complete, ← h.blank]
      exact ha
    · rintro ⟨rest, rfl, ms, hm, ha⟩
      obtain ⟨named, hn, ha⟩ := Option.bind_eq_some_iff.mp ha
      rw [Layout.ofMembers?, Option.ite_none_right_eq_some] at ha
      obtain ⟨⟨distinct, present⟩, ha⟩ := ha
      refine ⟨((Layout.names (l.known named)).reverse, a), _, ⟨rest, rfl, ms, hm, named, hn, ?_, ?_,
        ?_⟩, ?_, rfl, rfl⟩
      · exact (List.append_nil _).symm
      · exact List.nodup_reverse.mpr distinct
      · rw [h.blank]
        exact ha
      · simpa using present

/-- **A record is read as its layout says.** -/
theorem reads_record (room : Nat) (h : l.Describes form) :
    Reads (record room form) (l.record? room) := by
  intro cs
  refine exact_peekToken ?_
  cases first : dropBlanks cs with
  | nil => exact (refuses_wrongKind _).spells_nil first
  | cons c more =>
    dsimp only [List.head?_cons]
    split
    · next hc =>
      cases hc
      refine (exact_enclosed (exact_values h.fields)).congr fun a rest => ?_
      rw [h.blank, spells_list first]
      constructor
      · rintro ⟨some, items, hi, few, ha⟩
        exact ⟨items, hi, by simp only [Layout.record?, if_neg some, Layout.ofItems?, if_pos few,
          ha]⟩
      · rintro ⟨items, hi, ha⟩
        simp only [Layout.record?, Layout.ofItems?, Option.ite_none_left_eq_some,
          Option.ite_none_right_eq_some] at ha
        exact ⟨ha.1, items, hi, ha.2.1, ha.2.2⟩
    · next hc =>
      cases hc
      refine (exact_enclosed (exact_closed .object (exact_fields h))).congr fun a rest => ?_
      rw [spells_object first]
      constructor
      · rintro ⟨some, ms, hm, ha⟩
        exact ⟨ms, hm, (if_neg some).trans ha⟩
      · rintro ⟨ms, hm, ha⟩
        simp only [Layout.record?, Option.ite_none_left_eq_some] at ha
        exact ⟨ha.1, ms, hm, ha.2⟩
    · next list object =>
      refine (refuses_wrongKind _).spells first fun v opens => ?_
      cases v with
      | list => cases opens; exact (list rfl).elim
      | object => cases opens; exact (object rfl).elim
      | _ => rfl

end Reader

/-! ## Records seen as others -/

/-- To give a property and to see the record as another is to give the other property. -/
structure Property.SeenAs (f : α → β) (p : Property α) (q : Property β) : Prop where
  name : p.name = q.name
  required : p.required = q.required
  assign : ∀ a v, (p.assign? a v).map f = q.assign? (f a) v

namespace Layout
variable {f : α → β} {l : Layout α} {l' : Layout β}

/-- Both properties are given the same value. -/
def GivenAs (f : α → β) (g : Property α × Tree) (g' : Property β × Tree) : Prop :=
  g.1.SeenAs f g'.1 ∧ g.2 = g'.2

theorem forall₂_known (h : List.Forall₂ (Property.SeenAs f) l.properties l'.properties)
    (named : List (String × Tree)) :
    List.Forall₂ (GivenAs f) (l.known named) (l'.known named) := by
  induction named with
  | nil => exact .nil
  | cons m named ih =>
    rw [known_cons, known_cons]
    have found : (l.property? m.1 = none ∧ l'.property? m.1 = none) ∨
        ∃ p q, l.property? m.1 = some p ∧ l'.property? m.1 = some q ∧ p.SeenAs f q :=
      find?_related h fun p q hp => by rw [hp.name]
    rcases found with ⟨hp, hq⟩ | ⟨p, q, hp, hq, same⟩
    · simpa only [hp, hq] using ih
    · simpa only [hp, hq] using .cons ⟨same, rfl⟩ ih

variable {given : List (Property α × Tree)} {given' : List (Property β × Tree)}

theorem names_seenAs (h : List.Forall₂ (GivenAs f) given given') : names given = names given' := by
  induction h with
  | nil => rfl
  | cons hg _ ih => exact congrArg₂ List.cons hg.1.name ih

theorem assign?_seenAs (h : List.Forall₂ (GivenAs f) given given') (a : α) :
    (assign? a given).map f = assign? (f a) given' := by
  induction h generalizing a with
  | nil => rfl
  | @cons g g' given given' hg _ ih =>
    obtain ⟨p, v⟩ := g
    obtain ⟨q, v'⟩ := g'
    obtain ⟨hp, rfl⟩ := hg
    rw [assign?_cons, assign?_cons, ← hp.assign, Option.map_bind, Option.bind_map]
    congr 1
    funext b
    exact ih b

theorem complete_seenAs (h : List.Forall₂ (Property.SeenAs f) l.properties l'.properties)
    (hg : List.Forall₂ (GivenAs f) given given') : l.Complete given ↔ l'.Complete given' := by
  unfold Complete
  rw [names_seenAs hg]
  refine and_congr_right fun _ => ?_
  generalize l.properties = ps, l'.properties = qs at h
  induction h with
  | nil => simp
  | cons hp _ ih => rw [List.forall_mem_cons, List.forall_mem_cons, hp.name, hp.required, ih]

theorem forall₂_zip {ps : List (Property α)} {qs : List (Property β)}
    (h : List.Forall₂ (Property.SeenAs f) ps qs) (items : List Tree) :
    List.Forall₂ (GivenAs f) (ps.zip items) (qs.zip items) := by
  induction h generalizing items with
  | nil => exact .nil
  | cons hp _ ih =>
    cases items with
    | nil => exact .nil
    | cons v items => exact .cons ⟨hp, rfl⟩ (ih items)

/-- **Where every property is seen as one of the other layout, a record is seen as one.** -/
theorem record?_seenAs (h : List.Forall₂ (Property.SeenAs f) l.properties l'.properties)
    (blank : f l.blank = l'.blank) (room : Nat) (v : Tree) :
    (l.record? room v).map f = l'.record? room v := by
  cases v with
  | list items =>
    have given := assign?_seenAs (forall₂_zip h items) l.blank
    have optional (n : Nat) : (∀ p ∈ l.properties.drop n, p.required = false) ↔
        ∀ p ∈ l'.properties.drop n, p.required = false := by
      have left := List.forall₂_drop n h
      generalize l.properties.drop n = ps, l'.properties.drop n = qs at left
      induction left with
      | nil => simp
      | cons hp _ ih =>
        rw [List.forall_mem_cons, List.forall_mem_cons, hp.required]
        exact and_congr_right fun _ => ih
    simp only [record?, ofItems?, h.length_eq, optional, ← blank, ← given]
    split
    · rfl
    · split <;> rfl
  | object members =>
    simp only [record?]
    split
    · rfl
    · rw [Option.map_bind]
      congr 1
      funext named
      have given := assign?_seenAs (forall₂_known h named) l.blank
      simp only [Function.comp, ofMembers?, complete_seenAs h (forall₂_known h named), ← blank,
        ← given]
      split <;> rfl
  | _ => rfl

end Layout
end GrammarArtifact.Json
