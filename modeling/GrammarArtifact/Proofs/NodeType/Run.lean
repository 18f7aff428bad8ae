import Mathlib
import GrammarArtifact.NodeType.Table
import GrammarArtifact.Proofs.Expansion.Laws
import GrammarArtifact.Proofs.Grammar.Rules
import GrammarArtifact.Proofs.NodeType.Reach
import GrammarArtifact.Proofs.NodeType.Table

/-! # The run of an expansion

A summary is made with a stack of the hidden rules that are being expanded: one is put
on it when its body is entered, and taken off when that body is done. Nothing else keeps
the calls from nesting ever deeper. Here a `Run` is a computation over this stack that
keeps every earlier value of it, and that has no outcome if its calls nest more deeply
than a given number. This file shows that on every grammar some depth is enough, that
the stack is then what it was, and that the outcome is the one of `Grammar.summarize`;
in between no rule is on the stack twice. -/

namespace GrammarArtifact

/-- The hidden rules that are being expanded, the innermost first, and what they were before each
change, the latest change first. -/
structure Expanding where
  now : List String
  before : List (List String)

/-- A computation over the rules that are being expanded. It has no outcome if its calls nest too
deeply. -/
abbrev Run := StateT Expanding Option

namespace Run

def isExpanding (name : String) : Run Bool := return (← get).now.contains name

def enter (name : String) : Run Unit := modify fun e => ⟨name :: e.now, e.now :: e.before⟩

def leave : Run Unit := modify fun e => ⟨e.now.tail, e.now :: e.before⟩

end Run

/-- Summaries combined from left to right; nothing if there are none. -/
def Summary.reduce (combine : Summary → Summary → Summary) : List Summary → Summary
  | [] => {}
  | s :: rest => rest.foldl combine s

namespace Grammar
open Run

section
variable (g : Grammar) (summarized : Rule → Run Summary)

/-- Summarizes the content of a rule, given how a body is summarized; nothing if it is absent. -/
def runContent (r : Rule) : Run Summary := r.content.elim (return {}) summarized

/-- Summarizes a reference. The body of a hidden rule is expanded unless it is a token or is being
expanded. -/
def runReference (name? : Option String) : Run Summary := do
  match name?.filter g.defines with
  | none => return {}
  | some name =>
    if !g.isHidden name then return .named name
    match g.rule? name with
    | none => return {}
    | some body =>
      if body.isLexical || (← isExpanding name) then return {}
      enter name
      let summary ← summarized body
      leave
      return summary

/-- Summarizes a rule, given how the rules in it and the bodies of hidden rules are. -/
def runRule (r : Rule) : Run Summary :=
  match r.type with
  | .symbol => g.runReference summarized r.symbolName?
  | .seq => return .reduce .append (← r.members.mapM summarized)
  | .choice => return .reduce .either (← r.members.mapM summarized)
  | .repeated => return (← runContent summarized r).repeated false
  | .repeated1 => return (← runContent summarized r).repeated true
  | .field => do
    let inner ← runContent summarized r
    return r.fieldName?.elim inner inner.inField
  | .prec | .precLeft | .precRight | .precDynamic | .reserved => runContent summarized r
  | .blank | .pattern => return {}
  | .string => return .anonymous r.stringValue?
  | .token | .immediateToken => return .anonymous (r.content.bind Rule.stringValue?)
  | .aliased =>
    return r.text?.elim {} fun kind => if r.isNamed then .named kind else .anonymous (some kind)

end

/-- Summarizes a body, by calls of itself that nest at most `depth` deep. -/
def runSummary (g : Grammar) : (depth : Nat) → Rule → Run Summary
  | 0, _ => failure
  | depth + 1, r => g.runRule (g.runSummary depth) r

def runNodeType (g : Grammar) (depth : Nat) (kind : String) (body : Rule) : Run NodeType := do
  if body.isLexical then return .leaf kind true
  return (← g.runSummary depth body).nodeType kind

def runAliasType (g : Grammar) (depth : Nat) (name : String) (content : Rule) : Run NodeType :=
  match content.symbolName? with
  | none => g.runNodeType depth name content
  | some target => (g.rule? target).elim (return .leaf name true) (g.runNodeType depth name)

def runNamedTypes (g : Grammar) (depth : Nat) : Run (NameMap NodeType) := do
  let visible := g.ruleEntries.filter fun entry => !g.isHidden entry.1
  let rules ← visible.mapM fun entry => return (entry.1, ← g.runNodeType depth entry.1 entry.2)
  let externals := g.externalNames.filter fun name => !g.isHidden name
  let withExternals : NameMap NodeType := externals.foldl
    (fun types name => types.insertIfNew name (.leaf name true)) (.ofList rules)
  g.namedAliases.foldlM (fun types entry => do
    if types.contains entry.1 then return types
    return types.insert entry.1 (← g.runAliasType depth entry.1 entry.2)) withExternals

end Grammar

/-! ## Summaries from left to right -/

namespace Summary

theorem foldl_append (s : Summary) (l : List Summary) :
    l.foldl append s = s.append (sequence l) := by
  induction l generalizing s with
  | nil => exact (append_empty s).symm
  | cons t rest ih => rw [List.foldl_cons, ih, append_assoc, sequence]

theorem reduce_append (l : List Summary) : reduce append l = sequence l := by
  cases l with
  | nil => rfl
  | cons s rest => exact foldl_append s rest

theorem foldl_either (s : Summary) (l : List Summary) : l.foldl either s = choice (s :: l) := by
  induction l generalizing s with
  | nil => rfl
  | cons t rest ih =>
    rw [List.foldl_cons, ih]
    cases rest with
    | nil => rfl
    | cons u rest => exact either_assoc s t _

theorem reduce_either (l : List Summary) : reduce either l = choice l := by
  cases l with
  | nil => rfl
  | cons s rest => exact foldl_either s rest

end Summary

namespace Grammar
open Run
variable {g : Grammar} {inside : List String} {name : String} {r body : Rule} {α β : Type}
  {summarized : Rule → Run Summary}

/-! ## Computations that end -/

/-- A stack on which no rule is twice, and only hidden rules with a body are. -/
structure Nested (g : Grammar) (stack : List String) : Prop where
  distinct : stack.Nodup
  hidden : ∀ name ∈ stack, g.isHidden name = true ∧ ∃ body, g.rule? name = some body

/-- A computation ends with a value and leaves the stack as it was, whatever went before. In
between, all that was on the stack stays there, and it is nested if it was so at first. -/
def Ends (g : Grammar) (run : Run α) (inside : List String) (value : α) : Prop :=
  ∀ before, ∃ during, run ⟨inside, before⟩ = some (value, ⟨inside, during ++ before⟩) ∧
    ∀ stack ∈ during, inside <:+ stack ∧ (g.Nested inside → g.Nested stack)

/-- There are no more rules on a nested stack than there are in the grammar. -/
theorem Nested.length_le {stack : List String} (h : g.Nested stack) :
    stack.length ≤ g.rules.size := by
  have listed : stack ⊆ g.ruleNames := by
    intro name hm
    obtain ⟨_, body, hr⟩ := h.hidden name hm
    have present : (g.rules[name]?).isSome = true := Option.isSome_of_eq_some hr
    exact mem_ruleNames.mpr (Std.ExtTreeMap.mem_iff_isSome_getElem?.mpr present)
  have size : g.ruleNames.length = g.rules.size := Std.ExtTreeMap.length_keys
  exact size ▸ (List.subperm_of_subset h.distinct listed).length_le

/-- A rule that is expanded can be put on a nested stack. -/
theorem Nested.cons (h : g.Nested inside) (he : g.expansion? inside name = some body) :
    g.Nested (name :: inside) := by
  obtain ⟨fresh, hb⟩ := expansion?_eq_some.mp he
  obtain ⟨hidden, hr, _⟩ := rule?_of_hiddenBody? hb
  exact ⟨List.nodup_cons.mpr ⟨fresh, h.distinct⟩,
    List.forall_mem_cons.mpr ⟨⟨hidden, body, hr⟩, h.hidden⟩⟩

/-- The second computation starts with what the first one leaves. -/
theorem run_bind {run : Run α} {next : α → Run β} {e e' : Expanding} {a : α}
    (h : run e = some (a, e')) : (run >>= next) e = next a e' := by
  show (run e).bind (fun p => next p.1 p.2) = _
  rw [h]
  rfl

namespace Ends

theorem pure (value : α) : g.Ends (Pure.pure value) inside value :=
  fun _ => ⟨[], rfl, nofun⟩

theorem isExpanding (name : String) : g.Ends (Run.isExpanding name) inside (inside.contains name) :=
  fun _ => ⟨[], rfl, nofun⟩

theorem bind {run : Run α} {next : α → Run β} {a : α} {b : β} (first : g.Ends run inside a)
    (rest : g.Ends (next a) inside b) : g.Ends (run >>= next) inside b := by
  intro before
  obtain ⟨during, he, nested⟩ := first before
  obtain ⟨during', he', nested'⟩ := rest (during ++ before)
  refine ⟨during' ++ during, ?_, ?_⟩
  · rw [run_bind he, he', List.append_assoc]
  · intro stack hm
    exact (List.mem_append.mp hm).elim (nested' stack) (nested stack)

theorem map {run : Run α} {a : α} (h : g.Ends run inside a) (f : α → β) :
    g.Ends (do return f (← run)) inside (f a) :=
  h.bind (.pure (f a))

/-- What ends for each item of a list ends for the list. -/
theorem mapM {run : α → Run β} {value : α → β} : ∀ {items : List α},
    (∀ a ∈ items, g.Ends (run a) inside (value a)) →
      g.Ends (items.mapM run) inside (items.map value)
  | [], _ => .pure []
  | a :: rest, each => by
    obtain ⟨first, others⟩ := List.forall_mem_cons.mp each
    rw [List.mapM_cons]
    exact first.bind ((mapM others).bind (.pure _))

/-- What ends for each item of a list ends for a fold over the list. -/
theorem foldlM {step : β → α → Run β} {next : β → α → β} : ∀ {items : List α},
    (∀ a ∈ items, ∀ b, g.Ends (step b a) inside (next b a)) →
      ∀ b, g.Ends (items.foldlM step b) inside (items.foldl next b)
  | [], _, b => .pure b
  | a :: rest, each, b => by
    obtain ⟨first, others⟩ := List.forall_mem_cons.mp each
    rw [List.foldlM_cons]
    exact (first b).bind (foldlM others _)

/-- While a rule is entered it is on the stack, and after it is left it is not. -/
theorem entered {run : Run α} {value : α} (h : g.Ends run (name :: inside) value)
    (nested : g.Nested inside → g.Nested (name :: inside)) :
    g.Ends (do enter name; let value ← run; leave; return value) inside value := by
  intro before
  obtain ⟨during, he, within⟩ := h (inside :: before)
  refine ⟨(name :: inside) :: (during ++ [inside]), ?_, ?_⟩
  · have started : enter name ⟨inside, before⟩ =
        some ((), ⟨name :: inside, inside :: before⟩) := rfl
    rw [run_bind started, run_bind he]
    simp only [List.cons_append, List.append_assoc, List.nil_append]
    rfl
  · intro stack hm
    rcases List.mem_cons.mp hm with rfl | hm
    · exact ⟨List.suffix_cons name inside, nested⟩
    · rcases List.mem_append.mp hm with hm | hm
      · obtain ⟨above, keeps⟩ := within stack hm
        exact ⟨(List.suffix_cons name inside).trans above, fun h => keeps (nested h)⟩
      · rw [List.mem_singleton.mp hm]
        exact ⟨List.suffix_rfl, id⟩

end Ends

/-! ## Each call ends -/

theorem summarize_contentOrBlank (g : Grammar) (inside : List String) (r : Rule) :
    g.summarize inside r.contentOrBlank = r.content.elim {} (g.summarize inside) := by
  unfold Rule.contentOrBlank
  cases r.content with
  | none => rw [Option.getD_none, summarize_eq, shape_blank]; rfl
  | some c => rfl

theorem runContent_ends (inner : ∀ c, r.content = some c →
    g.Ends (summarized c) inside (g.summarize inside c)) :
    g.Ends (runContent summarized r) inside (r.content.elim {} (g.summarize inside)) := by
  unfold runContent
  cases hc : r.content with
  | some c => exact inner c hc
  | none => exact .pure _

theorem expansion?_of_rule (inside : List String) (hh : g.isHidden name = true)
    (hr : g.rule? name = some body) : g.expansion? inside name =
      if (body.isLexical || inside.contains name) = true then none else some body := by
  rw [expansion?, hh, hr, Option.filter_some]
  cases body.isLexical <;> cases inside.contains name <;> rfl

/-- A reference ends if the body into which it is expanded does. -/
theorem runReference_ends (name? : Option String) (expanded : ∀ name body, name? = some name →
      g.expansion? inside name = some body →
      g.Ends (summarized body) (name :: inside) (g.summarize (name :: inside) body)) :
    g.Ends (g.runReference summarized name?) inside (name?.elim {} fun name =>
      g.referenceSummary inside (g.summarize (name :: inside)) name) := by
  unfold runReference
  cases name? with
  | none => exact .pure _
  | some name =>
    rw [Option.elim_some, Option.filter_some, referenceSummary]
    cases hd : g.defines name with
    | false => exact .pure _
    | true =>
      simp only [if_true]
      cases hh : g.isHidden name with
      | false => exact .pure _
      | true =>
        simp only [Bool.not_true, Bool.false_eq_true, if_false]
        cases hr : g.rule? name with
        | none =>
          have he : g.expansion? inside name = none := by simp [expansion?, hr]
          rw [he]
          exact .pure _
        | some body =>
          refine (Ends.isExpanding name).bind ?_
          have he := expansion?_of_rule inside hh hr
          by_cases stops : (body.isLexical || inside.contains name) = true
          · rw [if_pos stops] at he ⊢
            rw [he]
            exact .pure _
          · rw [if_neg stops] at he ⊢
            rw [he]
            exact (expanded name body rfl he).entered fun nested => nested.cons he

/-- **One rule is summarized if what is in it is**, and the body into which it is expanded. -/
theorem runRule_ends (inner : ∀ c ∈ r.children, g.Ends (summarized c) inside (g.summarize inside c))
    (expanded : ∀ name body, r.symbolName? = some name → g.expansion? inside name = some body →
      g.Ends (summarized body) (name :: inside) (g.summarize (name :: inside) body)) :
    g.Ends (g.runRule summarized r) inside (g.summarize inside r) := by
  have content : g.Ends (runContent summarized r) inside (g.summarize inside r.contentOrBlank) := by
    rw [summarize_contentOrBlank]
    exact runContent_ends fun c hc => inner c (Rule.mem_children.mpr (.inl hc))
  have members := Ends.mapM fun m hm => inner m (Rule.mem_children.mpr (.inr hm))
  have reference := runReference_ends r.symbolName? expanded
  obtain ⟨type, value, name, c, ms, named, flags, context⟩ := r
  unfold runRule
  cases type with
  | symbol =>
    rw [summarize_eq_summary, Rule.summary]
    exact reference
  | seq =>
    have summary := members.map (Summary.reduce .append)
    rw [Summary.reduce_append] at summary
    rw [summarize_eq]
    exact summary
  | choice =>
    have summary := members.map (Summary.reduce .either)
    rw [Summary.reduce_either] at summary
    rw [summarize_eq]
    exact summary
  | repeated | repeated1 =>
    rw [summarize_eq]
    exact content.map _
  | field =>
    rw [summarize_eq]
    cases name with
    | none | some name => exact content.map _
  | prec | precLeft | precRight | precDynamic | reserved =>
    rw [summarize_eq]
    exact content
  | blank | pattern | string | token | immediateToken =>
    rw [summarize_eq_summary, Rule.summary]
    exact .pure _
  | aliased =>
    rw [summarize_eq]
    show g.Ends _ inside (Summary.ofShape _ _ (.ofKind? _ _))
    rw [Summary.ofShape_ofKind?]
    exact .pure _

/-! ## How deep the calls nest -/

def bodySize (g : Grammar) : Nat := (g.ruleEntries.flatMap fun entry => entry.2.preorder).length

/-- How deep the calls for a body can nest: through the body, and through one more body for each
rule that can still be expanded. -/
def callDepth (g : Grammar) (inside : List String) (r : Rule) : Nat :=
  g.unexpanded inside * g.bodySize + r.preorder.length

theorem length_le_flatMap (f : α → List β) {items : List α} {a : α} (h : a ∈ items) :
    (f a).length ≤ (items.flatMap f).length := by
  rw [List.flatMap_def]
  exact (List.sublist_flatten_of_mem (List.mem_map_of_mem h)).length_le

theorem length_preorder_of_child {c : Rule} (h : c ∈ r.children) :
    c.preorder.length < r.preorder.length := by
  rw [Rule.preorder_eq r, List.length_cons]
  exact Nat.lt_succ_of_le (length_le_flatMap Rule.preorder h)

theorem length_preorder_of_mem {c : Rule} (h : c ∈ r.preorder) :
    c.preorder.length ≤ r.preorder.length := by
  induction r using Rule.children_induction with
  | step r ih =>
    rcases Rule.mem_preorder.mp h with rfl | ⟨child, hc, h⟩
    · exact Nat.le_refl _
    · exact (ih child hc h).trans (length_preorder_of_child hc).le

theorem length_preorder_of_holds (h : g.Holds r) : r.preorder.length ≤ g.bodySize := by
  obtain ⟨_, body, hr, hm⟩ := h
  have whole : body.preorder.length ≤ g.bodySize :=
    length_le_flatMap (fun entry : String × Rule => entry.2.preorder) (mem_ruleEntries.mpr hr)
  exact (length_preorder_of_mem hm).trans whole

theorem callDepth_of_child {c : Rule} (h : c ∈ r.children) :
    g.callDepth inside c < g.callDepth inside r :=
  Nat.add_lt_add_left (length_preorder_of_child h) _

/-- A rule that is expanded is one less that can be, which makes room for its body. -/
theorem callDepth_of_expansion (he : g.expansion? inside name = some body) :
    g.callDepth (name :: inside) body ≤ g.unexpanded inside * g.bodySize := by
  obtain ⟨fresh, hb⟩ := expansion?_eq_some.mp he
  obtain ⟨_, hr, _⟩ := rule?_of_hiddenBody? hb
  have fewer := unexpanded_lt (mem_ruleNames_of_hiddenBody? hb) fresh
  calc g.callDepth (name :: inside) body
      ≤ g.unexpanded (name :: inside) * g.bodySize + g.bodySize :=
        Nat.add_le_add_left (length_preorder_of_holds (holds_of_rule hr)) _
    _ = (g.unexpanded (name :: inside) + 1) * g.bodySize := (Nat.succ_mul _ _).symm
    _ ≤ g.unexpanded inside * g.bodySize := Nat.mul_le_mul_right _ fewer

theorem length_preorder_pos (r : Rule) : 0 < r.preorder.length := by
  rw [Rule.preorder_eq]
  exact Nat.succ_pos _

/-- **Summarizing a body ends**, with its summary. -/
theorem runSummary_ends (g : Grammar) (depth : Nat) : ∀ inside r, g.callDepth inside r ≤ depth →
    g.Ends (g.runSummary depth r) inside (g.summarize inside r) := by
  induction depth with
  | zero =>
    intro inside r enough
    have := length_preorder_pos r
    unfold callDepth at enough
    omega
  | succ depth ih =>
    intro inside r enough
    refine runRule_ends (fun c hc => ih inside c ?_) fun name body _ he => ih _ body ?_
    · exact Nat.le_of_lt_succ ((callDepth_of_child hc).trans_le enough)
    · have room : g.unexpanded inside * g.bodySize < g.callDepth inside r :=
        Nat.lt_add_of_pos_right (length_preorder_pos r)
      exact Nat.le_of_lt_succ (((callDepth_of_expansion he).trans_lt room).trans_le enough)

theorem runNodeType_ends {depth : Nat} (kind : String) (enough : g.callDepth inside r ≤ depth) :
    g.Ends (g.runNodeType depth kind r) inside
      (if r.isLexical then .leaf kind true else (g.summarize inside r).nodeType kind) := by
  unfold runNodeType
  cases r.isLexical with
  | true => exact .pure _
  | false => exact (g.runSummary_ends depth inside r enough).map _

/-- A depth that is enough for each body about which the table says something. -/
def tableDepth (g : Grammar) : Nat := (g.rules.size + 1) * g.bodySize

theorem callDepth_of_body (h : g.IsBody body) : g.callDepth [] body ≤ g.tableDepth := by
  have rules : g.unexpanded [] * g.bodySize ≤ g.rules.size * g.bodySize :=
    Nat.mul_le_mul_right _ (g.unexpanded_le_size [])
  have size : body.preorder.length ≤ g.bodySize := length_preorder_of_holds h.holds
  calc g.callDepth [] body ≤ g.rules.size * g.bodySize + g.bodySize := Nat.add_le_add rules size
    _ = g.tableDepth := (Nat.succ_mul _ _).symm

theorem runAliasType_ends {depth : Nat} {content : Rule} (enough : g.tableDepth ≤ depth)
    (h : (name, content) ∈ g.namedAliases) :
    g.Ends (g.runAliasType depth name content) [] (g.aliasType name content) := by
  have type : ∀ body, g.IsBody body → g.Ends (g.runNodeType depth name body) []
      (g.nodeType name body) :=
    fun body hb => runNodeType_ends name ((callDepth_of_body hb).trans enough)
  unfold runAliasType aliasType
  cases content.symbolName? with
  | none => exact type content (.inr ⟨name, h⟩)
  | some target =>
    cases hr : g.rule? target with
    | none =>
      simp only [hr]
      exact .pure _
    | some body =>
      simp only [hr]
      exact type body (.inl ⟨target, hr⟩)

/-- The named kinds are made one after the other, each with the stack that the last one leaves. -/
theorem runNamedTypes_ends {depth : Nat} (enough : g.tableDepth ≤ depth) :
    g.Ends (g.runNamedTypes depth) [] g.namedTypes := by
  have types : ∀ entry ∈ g.ruleEntries.filter fun entry => !g.isHidden entry.1,
      g.Ends (do return (entry.1, ← g.runNodeType depth entry.1 entry.2)) []
        (entry.1, g.nodeType entry.1 entry.2) := by
    intro entry hm
    have hb : g.IsBody entry.2 := .inl ⟨entry.1, mem_ruleEntries.mp (List.mem_filter.mp hm).1⟩
    exact (runNodeType_ends entry.1 ((callDepth_of_body hb).trans enough)).map _
  unfold runNamedTypes
  refine (Ends.mapM types).bind (Ends.foldlM (fun entry hm types => ?_) _)
  obtain ⟨name, content⟩ := entry
  dsimp only
  cases types.contains name with
  | true => exact .pure _
  | false => exact (runAliasType_ends enough hm).map _

/-- **Expansion ends on every grammar.** Whatever is being expanded, each of the calls ends if calls
can nest as deep as the grammar and the body say, and with the value that is defined without a
stack; it leaves the stack as it was. While the table of the named kinds is made, which starts with
the empty stack, no rule is ever on the stack twice, and only hidden rules with a body are, so that
there are never more of them than rules. -/
theorem expansion_ends (g : Grammar) (depth : Nat) :
    (∀ inside r, g.callDepth inside r ≤ depth →
      g.Ends (g.runSummary depth r) inside (g.summarize inside r) ∧
      g.Ends (runContent (g.runSummary depth) r) inside (r.content.elim {} (g.summarize inside)) ∧
      ∀ kind, g.Ends (g.runNodeType depth kind r) inside
        (if r.isLexical then .leaf kind true else (g.summarize inside r).nodeType kind)) ∧
    (∀ inside name?, g.unexpanded inside * g.bodySize ≤ depth →
      g.Ends (g.runReference (g.runSummary depth) name?) inside (name?.elim {} fun name =>
        g.referenceSummary inside (g.summarize (name :: inside)) name)) ∧
    (g.tableDepth ≤ depth → ∃ during,
      g.runNamedTypes depth ⟨[], []⟩ = some (g.namedTypes, ⟨[], during⟩) ∧
        ∀ stack ∈ during, g.Nested stack ∧ stack.length ≤ g.rules.size) := by
  refine ⟨fun inside r enough => ⟨g.runSummary_ends depth inside r enough, ?_,
    fun kind => runNodeType_ends kind enough⟩, fun inside name? enough => ?_, fun enough => ?_⟩
  · refine runContent_ends fun c hc => g.runSummary_ends depth inside c ?_
    exact (callDepth_of_child (Rule.mem_children.mpr (.inl hc))).le.trans enough
  · refine runReference_ends name? fun name body _ he => ?_
    exact g.runSummary_ends depth _ body ((callDepth_of_expansion he).trans enough)
  · obtain ⟨during, ends, within⟩ := runNamedTypes_ends enough []
    have empty : g.Nested [] := ⟨List.nodup_nil, nofun⟩
    refine ⟨during, by simpa using ends, fun stack hm => ?_⟩
    have nested := (within stack hm).2 empty
    exact ⟨nested, nested.length_le⟩

/-- In the grammar of nested lists the hidden rule refers to itself. A depth of 24 is enough for
its table, and one of 19 for the hidden rule alone. -/
theorem nests_expansion_ends : nests.hiddenBody? "_expr" = some exprBody ∧
    nests.Ends (nests.runSummary 19 (.symbol "_expr")) [] (nests.summarize [] (.symbol "_expr")) ∧
    ∃ during, nests.runNamedTypes 24 ⟨[], []⟩ = some (nests.namedTypes, ⟨[], during⟩) ∧
      ∀ stack ∈ during, nests.Nested stack ∧ stack.length ≤ 3 := by
  have body : nests.callDepth [] (.symbol "_expr") = 19 := by cbv
  have table : nests.tableDepth = 24 := by cbv
  have rules : nests.rules.size = 3 := by cbv
  obtain ⟨_, _, types⟩ := expansion_ends nests 24
  exact ⟨by cbv, ((expansion_ends nests 19).1 [] _ body.le).1, rules ▸ types table.le⟩

/-- The hidden rule is entered once, and the reference to it in its own body adds nothing. -/
example : (nests.runSummary 19 (.symbol "_expr") ⟨[], []⟩).map (·.2.before) =
    some [["_expr"], []] := by
  cbv

end Grammar
end GrammarArtifact
