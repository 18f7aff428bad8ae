import GrammarArtifact.Rule.Build
import GrammarArtifact.Rule.Writer

/-! # The bundled grammar

The grammar of Calcit scripts, rule by rule, and the artifact that holds it. The artifact lists the
rules in the order in which they are written here. -/

namespace GrammarArtifact.Bundled
open Rule

def name : String := "calcit"

def rules : List (String × Rule) := [
  ("source_file",
    seq [
      repeated (choice [symbol "function_definition", symbol "assignment", symbol "comment"])]),
  ("list_type", seq [symbol "type_or_object", literal "[]"]),
  ("tuple_type",
    seq [
      literal "<", symbol "type_or_object", literal ",",
      seq [symbol "type_or_object", repeated (seq [literal ",", symbol "type_or_object"])],
      literal ">"]),
  ("function_type",
    prec 2 (seq [
      literal "fn", field "parameters" (symbol "parameter_list"), literal ":",
      field "return_type" (symbol "type_or_object")])),
  ("module", seq [literal "module", symbol "identifier", literal "=", symbol "block_expression"]),
  ("export_statement", seq [literal "export", symbol "module"]),
  ("import_assignment", seq [literal "import", literal "(", symbol "string", literal ")"]),
  ("struct_field",
    seq [
      literal "let", symbol "identifier",
      choice [
        seq [literal ":", symbol "type_or_object"],
        seq [
          optional (seq [literal ":", symbol "type_or_object"]), literal "=",
          symbol "local_function_definition"]]]),
  ("struct_assignment",
    seq [
      literal "struct",
      seq [
        literal "\x7b",
        optional (
          seq [symbol "struct_field", repeated (seq [literal ",", symbol "struct_field"])]),
        literal "\x7d"]]),
  ("statement", choice [symbol "export_statement", symbol "expression"]),
  ("assignment",
    seq [
      literal "let", symbol "identifier", literal "=",
      choice [
        symbol "expression", symbol "block_expression", symbol "function_definition",
        symbol "struct_assignment"]]),
  ("local_assignment",
    seq [
      literal "let", symbol "identifier", literal "=",
      choice [
        symbol "expression", symbol "block_expression", symbol "local_function_definition"]]),
  ("function_definition",
    seq [
      optional (symbol "dependency_list"), symbol "parameter_list", literal "=>",
      symbol "type_or_object", choice [symbol "expression", symbol "block_expression"]]),
  ("local_function_definition",
    seq [
      optional (symbol "local_dependency_list"), symbol "parameter_list", literal "=>",
      symbol "type_or_object", choice [symbol "expression", symbol "block_expression"]]),
  ("dependency_list",
    seq [
      literal "[",
      seq [
        choice [symbol "identifier", symbol "child_annotation", literal "this"],
        repeated (seq [
          literal ",",
          choice [symbol "identifier", symbol "child_annotation", literal "this"]])],
      literal "]"]),
  ("local_dependency_list",
    seq [
      literal "[",
      seq [
        choice [symbol "identifier", symbol "child_annotation", literal "this", literal "super"],
        repeated (seq [
          literal ",",
          choice [
            symbol "identifier", symbol "child_annotation", literal "this", literal "super"]])],
      literal "]"]),
  ("parameter_list",
    seq [
      literal "(",
      optional (seq [symbol "parameter", repeated (seq [literal ",", symbol "parameter"])]),
      literal ")"]),
  ("parameter", seq [symbol "identifier", literal ":", symbol "type_or_object"]),
  ("null", literal "null"),
  ("type",
    prec 1 (choice [
      symbol "list_type", symbol "tuple_type", symbol "function_type", literal "i8",
      literal "i16", literal "i32", literal "i64", literal "u8", literal "u16", literal "u32",
      literal "u64", literal "f32", literal "f64", literal "bool", literal "str",
      literal "h8", literal "h16", literal "h32", literal "h64", literal "o8", literal "o16",
      literal "o32", literal "o64", literal "b8", literal "b16", literal "b32", literal "b64",
      symbol "null"])),
  ("type_or_object",
    prec 2 (choice [symbol "type", symbol "identifier", symbol "child_annotation"])),
  ("ellipsis", literal "..."),
  ("spread_between", seq [symbol "expression", symbol "ellipsis", symbol "expression"]),
  ("spread_action", seq [symbol "ellipsis", symbol "expression"]),
  ("rest_of", seq [symbol "expression", symbol "ellipsis"]),
  ("builtin",
    choice [
      literal "print", literal "println", literal "read", literal "readln", literal "hex",
      literal "oct", literal "bin", literal "exit", literal "panic", literal "assert",
      literal "len"]),
  ("forall",
    seq [
      literal "forall", symbol "identifier", literal "in", symbol "expression",
      symbol "block_expression"]),
  ("return_statement", seq [literal "return", optional (symbol "expression")]),
  ("block_expression",
    seq [
      literal "\x7b",
      optional (seq [
        choice [symbol "expression", symbol "local_assignment", symbol "return_statement"],
        repeated (seq [
          literal ",",
          choice [symbol "expression", symbol "local_assignment", symbol "return_statement"]])]),
      literal "\x7d"]),
  ("getter_owner", symbol "expression"),
  ("get_expression",
    seq [
      symbol "getter_owner", literal "[", choice [symbol "expression", symbol "rest_of"],
      literal "]"]),
  ("while", seq [literal "while", symbol "expression", symbol "block_expression"]),
  ("if",
    seq [
      literal "if", symbol "expression", symbol "block_expression",
      optional (seq [literal "else", choice [symbol "block_expression", symbol "if"]])]),
  ("expression",
    choice [
      symbol "match_expression", symbol "binary_expression", symbol "unary_expression",
      symbol "function_call", symbol "literal", symbol "identifier", symbol "child_annotation",
      symbol "get_expression", symbol "forall", symbol "while", symbol "if",
      symbol "default_var"]),
  ("child_annotation",
    prec 2 (seq [
      choice [symbol "simple_identifier", symbol "function_call"], literal ".",
      choice [symbol "simple_identifier", symbol "function_call"],
      repeated (
        seq [literal ".", choice [symbol "simple_identifier", symbol "function_call"]])])),
  ("match_expression",
    seq [
      literal "match", symbol "expression", literal "\x7b",
      seq [symbol "match_arm", repeated (seq [literal ",", symbol "match_arm"])],
      literal "\x7d"]),
  ("default_var", literal "_"),
  ("match_arm",
    seq [
      symbol "condition", literal ":",
      choice [symbol "expression", symbol "block_expression", symbol "return_statement"]]),
  ("condition", symbol "expression"),
  ("binary_expression",
    choice [
      precLeft 4 (seq [
        field "left" (symbol "expression"), field "operator" (literal "**"),
        field "right" (symbol "expression")]),
      precLeft 3 (seq [
        field "left" (symbol "expression"), field "operator" (literal "*"),
        field "right" (symbol "expression")]),
      precLeft 3 (seq [
        field "left" (symbol "expression"), field "operator" (literal "/"),
        field "right" (symbol "expression")]),
      precLeft 3 (seq [
        field "left" (symbol "expression"), field "operator" (literal "%"),
        field "right" (symbol "expression")]),
      precLeft 2 (seq [
        field "left" (symbol "expression"), field "operator" (literal "+"),
        field "right" (symbol "expression")]),
      precLeft 2 (seq [
        field "left" (symbol "expression"), field "operator" (literal "-"),
        field "right" (symbol "expression")]),
      precLeft 5 (seq [
        field "left" (symbol "expression"), field "operator" (literal "<<"),
        field "right" (symbol "expression")]),
      precLeft 5 (seq [
        field "left" (symbol "expression"), field "operator" (literal ">>"),
        field "right" (symbol "expression")]),
      precLeft 6 (seq [
        field "left" (symbol "expression"), field "operator" (literal "<"),
        field "right" (symbol "expression")]),
      precLeft 6 (seq [
        field "left" (symbol "expression"), field "operator" (literal "<="),
        field "right" (symbol "expression")]),
      precLeft 6 (seq [
        field "left" (symbol "expression"), field "operator" (literal ">"),
        field "right" (symbol "expression")]),
      precLeft 6 (seq [
        field "left" (symbol "expression"), field "operator" (literal ">="),
        field "right" (symbol "expression")]),
      precLeft 7 (seq [
        field "left" (symbol "expression"), field "operator" (literal "=="),
        field "right" (symbol "expression")]),
      precLeft 7 (seq [
        field "left" (symbol "expression"), field "operator" (literal "!="),
        field "right" (symbol "expression")]),
      precLeft 8 (seq [
        field "left" (symbol "expression"), field "operator" (literal "&"),
        field "right" (symbol "expression")]),
      precLeft 9 (seq [
        field "left" (symbol "expression"), field "operator" (literal "^"),
        field "right" (symbol "expression")]),
      precLeft 10 (seq [
        field "left" (symbol "expression"), field "operator" (literal "|"),
        field "right" (symbol "expression")]),
      precLeft 11 (seq [
        field "left" (symbol "expression"), field "operator" (literal "&&"),
        field "right" (symbol "expression")]),
      precLeft 12 (seq [
        field "left" (symbol "expression"), field "operator" (literal "||"),
        field "right" (symbol "expression")])]),
  ("unary_expression",
    prec 13 (seq [
      field "operator" (choice [literal "-", literal "!"]),
      field "argument" (symbol "expression")])),
  ("function_call", choice [symbol "builtin_call", symbol "user_function_call"]),
  ("builtin_call",
    seq [
      field "function" (symbol "builtin"),
      field "arguments" (seq [
        literal "(",
        optional (
          seq [symbol "expression", repeated (seq [literal ",", symbol "expression"])]),
        literal ")"])]),
  ("user_function_call",
    seq [
      field "function" (symbol "identifier"),
      field "arguments" (seq [
        literal "(",
        optional (
          seq [symbol "expression", repeated (seq [literal ",", symbol "expression"])]),
        literal ")"])]),
  ("literal",
    choice [
      symbol "number", symbol "boolean", symbol "string", symbol "list", symbol "tuple",
      symbol "record", symbol "null"]),
  ("number", choice [symbol "integer", symbol "float", symbol "hex", symbol "oct", symbol "bin"]),
  ("integer", pattern "[0-9]+"),
  ("hex", pattern "0x[0-9a-fA-F]+"),
  ("oct", pattern "0o[0-7]+"),
  ("bin", pattern "0b[01]+"),
  ("float", pattern "[0-9]+\\.[0-9]+"),
  ("list",
    seq [
      literal "#[",
      optional (seq [
        choice [symbol "expression", symbol "spread_between", symbol "spread_action"],
        repeated (seq [
          literal ",",
          choice [symbol "expression", symbol "spread_between", symbol "spread_action"]])]),
      literal "]"]),
  ("record_field",
    seq [
      symbol "identifier", choice [literal ":", seq [literal "?", literal ":"]],
      symbol "type_or_object"]),
  ("record",
    seq [
      literal "#\x7b",
      optional (
        seq [symbol "record_field", repeated (seq [literal ",", symbol "record_field"])]),
      literal "\x7d"]),
  ("tuple",
    seq [
      literal "#(",
      optional (seq [symbol "expression", repeated (seq [literal ",", symbol "expression"])]),
      literal ")"]),
  ("boolean", choice [literal "true", literal "false"]),
  ("string", pattern "\"[^\"]*\""),
  ("simple_identifier", pattern "[a-zA-Z_][a-zA-Z0-9_]*"),
  ("identifier", symbol "simple_identifier"),
  ("comment",
    choice [
      token (seq [literal "//", pattern ".*"]),
      token (seq [literal "/*", pattern "[^*]*\\*+([^/*][^*]*\\*+)*", literal "*/"])])]

/-- The groups of rules between which a parse may be undecided. -/
def conflicts : List (List String) := [
  ["assignment", "getter_owner"],
  ["function_definition", "getter_owner"],
  ["expression", "user_function_call"],
  ["child_annotation", "identifier"]]

def document : Json.Value := .object [
  ("$schema",
    .text "https://tree-sitter.github.io/tree-sitter/assets/schemas/grammar.schema.json"),
  ("name", .text name),
  ("rules", .object (rules.map fun (name, body) => (name, body.toJson))),
  ("extras", .list [(pattern "\\s").toJson]),
  ("conflicts", .list (conflicts.map fun names => .list (names.map .text))),
  ("precedences", .list []),
  ("externals", .list []),
  ("inline", .list []),
  ("supertypes", .list []),
  ("reserved", .object [])]

def text : String := document.render 0 ++ "\n"

end GrammarArtifact.Bundled
