/-! # Grammar rules

A grammar is a set of named rules. A rule is a tree of literals, patterns, references and the
constructions that combine them. Every construction may carry every attribute: an artifact is read
as it is, and each question about a rule says which attributes it looks at. -/

namespace GrammarArtifact

inductive RuleType where
  /-- The empty text. -/
  | blank
  /-- A literal text. -/
  | string
  /-- A regular expression. -/
  | pattern
  /-- A reference to a rule or an external token. -/
  | symbol
  /-- One of the members. -/
  | choice
  /-- All members, one after the other. -/
  | seq
  /-- The content any number of times. -/
  | repeated
  /-- The content at least once. -/
  | repeated1
  | prec
  | precLeft
  | precRight
  | precDynamic
  /-- The content, held by a field of the node. -/
  | field
  /-- The content, shown under another name. -/
  | aliased
  /-- The content as one token. -/
  | token
  /-- The content as one token directly behind the one before. -/
  | immediateToken
  /-- The content in a context with reserved words of its own. -/
  | reserved
  deriving DecidableEq, Repr

namespace RuleType

def name : RuleType → String
  | .blank => "BLANK"
  | .string => "STRING"
  | .pattern => "PATTERN"
  | .symbol => "SYMBOL"
  | .choice => "CHOICE"
  | .seq => "SEQ"
  | .repeated => "REPEAT"
  | .repeated1 => "REPEAT1"
  | .prec => "PREC"
  | .precLeft => "PREC_LEFT"
  | .precRight => "PREC_RIGHT"
  | .precDynamic => "PREC_DYNAMIC"
  | .field => "FIELD"
  | .aliased => "ALIAS"
  | .token => "TOKEN"
  | .immediateToken => "IMMEDIATE_TOKEN"
  | .reserved => "RESERVED"

/-- Every kind, in the order in which messages list them. -/
def all : List RuleType :=
  [.blank, .string, .pattern, .symbol, .choice, .seq, .repeated, .repeated1, .prec, .precLeft,
    .precRight, .precDynamic, .field, .aliased, .token, .immediateToken, .reserved]

theorem mem_all (t : RuleType) : t ∈ all := by cases t <;> decide

/-- The four kinds that set a precedence. -/
def isPrecedence : RuleType → Bool
  | .prec | .precLeft | .precRight | .precDynamic => true
  | _ => false

/-- The two kinds that make a token of their content. -/
def isToken : RuleType → Bool
  | .token | .immediateToken => true
  | _ => false

end RuleType

/-- The value of a rule: the text of a literal, a pattern or an alias, or the level or the name of
a precedence. -/
inductive RuleValue where
  | string (s : String)
  | integer (i : Int)
  deriving DecidableEq, Repr

/-- A rule with its attributes. -/
structure Rule where
  type : RuleType
  value : Option RuleValue := none
  name : Option String := none
  content : Option Rule := none
  members : List Rule := []
  named : Option Bool := none
  flags : Option String := none
  contextName : Option String := none
  deriving Repr

namespace Rule

instance : Inhabited Rule := ⟨⟨.blank, none, none, none, [], none, none, none⟩⟩

mutual

def decEq : (a b : Rule) → Decidable (a = b)
  | ⟨t, v, n, c, ms, nd, f, x⟩, ⟨t', v', n', c', ms', nd', f', x'⟩ =>
    if h : t = t' ∧ v = v' ∧ n = n' ∧ nd = nd' ∧ f = f' ∧ x = x' then
      match decEqOption c c', decEqList ms ms' with
      | isTrue hc, isTrue hm => isTrue (by simp [h, hc, hm])
      | isFalse hc, _ => isFalse fun e => hc (by injection e)
      | _, isFalse hm => isFalse fun e => hm (by injection e)
    else isFalse fun e => h (by injection e; simp_all)

def decEqOption : (a b : Option Rule) → Decidable (a = b)
  | none, none => isTrue rfl
  | some _, none => isFalse nofun
  | none, some _ => isFalse nofun
  | some a, some b =>
    match decEq a b with
    | isTrue h => isTrue (by rw [h])
    | isFalse h => isFalse fun e => h (by injection e)

def decEqList : (a b : List Rule) → Decidable (a = b)
  | [], [] => isTrue rfl
  | _ :: _, [] => isFalse nofun
  | [], _ :: _ => isFalse nofun
  | a :: as, b :: bs =>
    match decEq a b, decEqList as bs with
    | isTrue h, isTrue hs => isTrue (by rw [h, hs])
    | isFalse h, _ => isFalse fun e => h (by injection e)
    | _, isFalse hs => isFalse fun e => hs (by injection e)

end

instance : DecidableEq Rule := decEq

def typeName (r : Rule) : String := r.type.name

def isTerminal (r : Rule) : Bool := r.type = .string || r.type = .pattern

def isSymbol (r : Rule) : Bool := r.type = .symbol

def symbolName? (r : Rule) : Option String := if r.isSymbol then r.name else none

def fieldName? (r : Rule) : Option String := if r.type = .field then r.name else none

def text? (r : Rule) : Option String :=
  match r.value with
  | some (.string s) => some s
  | _ => none

def level? (r : Rule) : Option Int :=
  match r.value with
  | some (.integer i) => some i
  | _ => none

/-- The level of a precedence; a named precedence has none. -/
def precedence? (r : Rule) : Option Int := if r.type.isPrecedence then r.level? else none

def stringValue? (r : Rule) : Option String := if r.type = .string then r.text? else none

def patternValue? (r : Rule) : Option String := if r.type = .pattern then r.text? else none

/-- Whether the node that a rule makes is said to be named. -/
def isNamed (r : Rule) : Bool := r.named.getD false

/-- The rules directly inside a rule, the content before the members. -/
def children (r : Rule) : List Rule := r.content.toList ++ r.members

mutual

/-- A rule and all rules inside it, each before the rules inside itself. -/
def preorder : Rule → List Rule
  | r@⟨_, _, _, content, members, _, _, _⟩ => r :: (preorderOption content ++ preorderList members)

def preorderOption : Option Rule → List Rule
  | none => []
  | some r => preorder r

def preorderList : List Rule → List Rule
  | [] => []
  | r :: rs => preorder r ++ preorderList rs

end

mutual

/-- Whether a rule is read as a whole, so that a rule made of such rules by choice is one token:
patterns, tokens, the empty text, and precedences and choices of these. A bare literal is a token
beside the others. -/
def isTokenized : Rule → Bool
  | ⟨type, _, _, content, members, _, _, _⟩ =>
    match type with
    | .blank | .pattern | .token | .immediateToken => true
    | .prec | .precLeft | .precRight | .precDynamic => contentTokenized content
    | .choice => allTokenized members
    | _ => false

def contentTokenized : Option Rule → Bool
  | none => false
  | some r => isTokenized r

def allTokenized : List Rule → Bool
  | [] => true
  | r :: rs => isTokenized r && allTokenized rs

end

mutual

/-- Whether a rule with this body is a leaf of the syntax tree: a bare literal or pattern, a token,
or a choice between rules that are each read as a whole. -/
def isLexical : Rule → Bool
  | ⟨type, _, _, content, members, _, _, _⟩ =>
    match type with
    | .string | .pattern | .token | .immediateToken => true
    | .prec | .precLeft | .precRight | .precDynamic => contentLexical content
    | .choice => !members.isEmpty && allTokenized members
    | _ => false

def contentLexical : Option Rule → Bool
  | none => false
  | some r => isLexical r

end

end Rule
end GrammarArtifact
