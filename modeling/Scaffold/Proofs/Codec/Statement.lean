import Scaffold.Codec.TypeScript
import Scaffold.Proofs.Json.Quote
import Scaffold.Proofs.Outcome
import Scaffold.Proofs.Text.Split

/-!
# Declarations as statements

The text of a codec is made of statements. A statement declares a name; on its right side stand the
types that it refers to, or members with keys. It is laid out in lines, and if its names are
identifiers, no line can be broken by what stands in it. Then the declared names can be read off the
lines that start with a keyword (`declaredNames_source`).

A key is an identifier or a quoted text, and a quoted text is never taken for an identifier, so a
key says which name it stands for (`keyText?_propertyKey`).
-/

namespace Scaffold

namespace Codec

/-- The names of the fields or labels, as far as a definition has any. -/
def Definition.memberNames : Definition → List String
  | .object fields => fields.keys
  | .enumeration labels => labels
  | _ => []

namespace TypeScript

variable {exported : Bool} {name : String}

/-! ## Keys -/

/-- The name that a key stands for: an identifier stands for itself, and any other key is a quoted
text. -/
def keyText? (key : String) : Option String :=
  if isIdentifier key then some key
  else
    match Json.read? key with
    | some (.str s) => some s
    | _ => none

theorem isIdentifierChar_of_mem (h : isIdentifier name = true) {c : Char} (hc : c ∈ name.toList) :
    isIdentifierChar c = true := by
  unfold isIdentifier at h
  split at h
  · cases h
  · rename_i first rest hname
    rw [Bool.and_eq_true, List.all_eq_true] at h
    rw [hname] at hc
    rcases List.mem_cons.1 hc with rfl | hc
    · have hstart := h.1
      simp only [isIdentifierStart, isIdentifierChar, Char.isAlphanum, Bool.or_eq_true] at hstart ⊢
      tauto
    · exact h.2 c hc

theorem isIdentifier_quote (s : String) : isIdentifier (Json.quote s) = false := by
  simp [isIdentifier, Json.toList_quote, isIdentifierStart]

theorem keyText?_propertyKey (s : String) : keyText? (propertyKey s) = some s := by
  by_cases h : isIdentifier s = true
  · rw [propertyKey, if_pos h, keyText?, if_pos h]
  · rw [propertyKey, if_neg h, keyText?, isIdentifier_quote, Json.read?_quote]
    rfl

theorem propertyKey_injective : Function.Injective propertyKey := by
  intro s s' h
  have hkey := keyText?_propertyKey s
  rw [h, keyText?_propertyKey] at hkey
  exact (Option.some.inj hkey).symm

theorem newline_not_mem_of_isIdentifier (h : isIdentifier name = true) : '\n' ∉ name.toList := by
  intro hmem
  have hchar := isIdentifierChar_of_mem h hmem
  revert hchar
  decide

theorem newline_not_mem_propertyKey (s : String) : '\n' ∉ (propertyKey s).toList := by
  by_cases h : isIdentifier s = true
  · rw [propertyKey, if_pos h]
    exact newline_not_mem_of_isIdentifier h
  · rw [propertyKey, if_neg h]
    intro hmem
    exact absurd (Json.le_toNat_of_mem_quote hmem) (by decide)

/-! ## Statements -/

/-- What stands on the right side of a declaration. -/
inductive Body where
  /-- A type, or types to choose from. -/
  | choice (names : List String)
  /-- Properties with keys, types and marks. -/
  | object (properties : List (String × String × Option Modifier))
  /-- Members with keys and numbers. -/
  | enumeration (members : List (String × Nat))

/-- The line of a property, without its end. -/
def propertyLine : String × String × Option Modifier → String
  | (key, type, none) => "  " ++ key ++ ": " ++ type ++ ";"
  | (key, type, some .optional) => "  " ++ key ++ "?: " ++ type ++ ";"
  | (key, type, some .array) => "  " ++ key ++ ": " ++ type ++ "[];"

/-- The line of a member, without its end. -/
def memberLine (member : String × Nat) : String :=
  "  " ++ member.1 ++ " = " ++ toString member.2 ++ ","

namespace Body

/-- The types that are referred to. -/
def types : Body → List String
  | .choice names => names
  | .object properties => properties.map fun property => property.2.1
  | .enumeration _ => []

/-- The keys of the properties or members. -/
def keys : Body → List String
  | .choice _ => []
  | .object properties => properties.map Prod.fst
  | .enumeration members => members.map Prod.fst

/-- The word before the declared name. -/
def word : Body → String
  | .enumeration _ => "enum "
  | _ => "type "

/-- What follows the declared name on its line. -/
def opening : Body → String
  | .choice names => "= " ++ " | ".intercalate names ++ ";"
  | .object _ => "= \x7b"
  | .enumeration _ => "\x7b"

/-- The lines of the properties or members. -/
def inner : Body → List String
  | .choice _ => []
  | .object properties => properties.map propertyLine
  | .enumeration members => members.map memberLine

/-- The lines behind them. -/
def closing : Body → List String
  | .choice _ => [""]
  | .object _ => ["\x7d;", ""]
  | .enumeration _ => ["\x7d", ""]

/-- What a definition is declared as. -/
def ofDefinition : Definition → Body
  | .synonym target => .choice [baseType target]
  | .object fields =>
      .object (fields.map fun field =>
        (propertyKey field.1, baseType field.2.base, field.2.modifier))
  | .union members => .choice members
  | .enumeration labels =>
      .enumeration ((TypeTree.numbered labels).map fun option => (propertyKey option.1, option.2))

end Body

/-- The declaration of a name. -/
structure Statement where
  name : String
  body : Body

namespace Statement

/-- The first line of a statement, without its end. -/
def header (exported : Bool) (s : Statement) : String :=
  keyword exported ++ s.body.word ++ s.name ++ " " ++ s.body.opening

/-- The lines of a statement, without their ends. -/
def lines (exported : Bool) (s : Statement) : List String :=
  s.header exported :: (s.body.inner ++ s.body.closing)

/-- The text of a statement: its lines, each with its end. -/
def text (exported : Bool) (s : Statement) : String :=
  String.join ((s.lines exported).map (· ++ "\n"))

end Statement

theorem keys_ofDefinition (d : Definition) :
    (Body.ofDefinition d).keys = d.memberNames.map propertyKey := by
  cases d with
  | synonym target => rfl
  | union members => rfl
  | object fields =>
      simp [Body.ofDefinition, Body.keys, Definition.memberNames, Table.keys, Function.comp_def]
  | enumeration labels =>
      have hlabels : (TypeTree.numbered labels).map Prod.fst = labels :=
        List.zipIdx_map_fst 0 labels
      rw [Definition.memberNames]
      nth_rewrite 2 [← hlabels]
      simp [Body.ofDefinition, Body.keys]

theorem fieldLine_eq (name : String) (field : Field) :
    fieldLine name field =
      propertyLine (propertyKey name, baseType field.base, field.modifier) ++ "\n" := by
  obtain ⟨base, modifier⟩ := field
  rcases modifier with _ | _ | _ <;> simp [fieldLine, propertyLine, String.append_assoc]

theorem enumLine_eq (option : String × Nat) :
    enumLine option = memberLine (propertyKey option.1, option.2) ++ "\n" := by
  simp [enumLine, memberLine, String.append_assoc]

theorem enumText_eq_text (exported : Bool) (name : String) (labels : List String) :
    enumText exported name labels =
      Statement.text exported ⟨name, .ofDefinition (.enumeration labels)⟩ := by
  simp [enumText, Statement.text, Statement.lines, Statement.header, Body.ofDefinition, Body.word,
    Body.opening, Body.inner, Body.closing, ← String.toList_inj, String.toList_join,
    List.flatMap_map, enumLine_eq]

/-- Whatever has a declaration is declared by its statement. -/
theorem declaration_eq_text {d : Definition} (h : d ≠ .union []) :
    declaration exported name d = .ok (Statement.text exported ⟨name, .ofDefinition d⟩) := by
  cases d with
  | synonym target =>
      simp [declaration, aliasText, Statement.text, Statement.lines, Statement.header,
        Body.ofDefinition, Body.word, Body.opening, Body.inner, Body.closing, ← String.toList_inj]
  | object fields =>
      simp [declaration, objectText, Statement.text, Statement.lines, Statement.header,
        Body.ofDefinition, Body.word, Body.opening, Body.inner, Body.closing, ← String.toList_inj,
        String.toList_join, List.flatMap_map, fieldLine_eq]
  | union members =>
      have hmembers : members ≠ [] := fun hnil => h (by rw [hnil])
      simp [declaration, unionText, hmembers, aliasText, Statement.text, Statement.lines,
        Statement.header, Body.ofDefinition, Body.word, Body.opening, Body.inner, Body.closing,
        ← String.toList_inj]
  | enumeration labels => rw [declaration, enumText_eq_text]

/-- The statements that declare named types, in their order. -/
def statements (defs : Table Definition) : List Statement :=
  defs.map fun entry => ⟨entry.1, .ofDefinition entry.2⟩

theorem map_name_statements (defs : Table Definition) :
    (statements defs).map Statement.name = defs.keys := by
  simp [statements, Table.keys, Function.comp_def]

/-- The text of the statements, one after the other. -/
def source (exported : Bool) (ss : List Statement) : String :=
  String.join (ss.map (Statement.text exported))

/-- If no union is empty, the text of a codec is that of its statements. -/
theorem emit_eq_source {defs : Table Definition} (h : ∀ entry ∈ defs, entry.2 ≠ .union []) :
    emit exported defs = .ok (source exported (statements defs)) := by
  induction defs with
  | nil => rfl
  | cons entry defs ih =>
      rw [List.forall_mem_cons] at h
      have hsource : source exported (statements (entry :: defs)) =
          Statement.text exported ⟨entry.1, .ofDefinition entry.2⟩ ++
            source exported (statements defs) := String.join_cons
      rw [emit, declaration_eq_text h.1, ih h.2, hsource]
      rfl

/-! ## Lines -/

/-- Nothing in the statement breaks a line. -/
structure Statement.Unbroken (s : Statement) : Prop where
  name : '\n' ∉ s.name.toList
  types : ∀ type ∈ s.body.types, '\n' ∉ type.toList
  keys : ∀ key ∈ s.body.keys, '\n' ∉ key.toList

theorem newline_not_mem_intercalate {names : List String} (h : ∀ n ∈ names, '\n' ∉ n.toList) :
    '\n' ∉ (" | ".intercalate names).toList := by
  induction names with
  | nil => simp
  | cons n names ih =>
      rw [List.forall_mem_cons] at h
      cases names with
      | nil => simpa using h.1
      | cons n' names =>
          have hrest := ih h.2
          rw [String.intercalate_cons_cons]
          simp [-String.toList_intercalate, h.1, hrest]

theorem newline_not_mem_toDigits (n : Nat) : '\n' ∉ Nat.toDigits 10 n := by
  intro hmem
  exact absurd (Nat.isDigit_of_mem_toDigits (by decide) (by decide) hmem) (by decide)

theorem newline_not_mem_propertyLine {property : String × String × Option Modifier}
    (hkey : '\n' ∉ property.1.toList) (htype : '\n' ∉ property.2.1.toList) :
    '\n' ∉ (propertyLine property).toList := by
  obtain ⟨key, type, modifier⟩ := property
  rcases modifier with _ | _ | _ <;> simp_all [propertyLine]

theorem newline_not_mem_memberLine {member : String × Nat} (h : '\n' ∉ member.1.toList) :
    '\n' ∉ (memberLine member).toList := by
  simp [memberLine, h, newline_not_mem_toDigits]

namespace Statement.Unbroken

variable {s : Statement}

theorem header (h : s.Unbroken) (exported : Bool) : '\n' ∉ (s.header exported).toList := by
  have hkeyword : '\n' ∉ (keyword exported).toList := by cases exported <;> decide
  have hword : '\n' ∉ s.body.word.toList := by
    unfold Body.word
    split <;> decide
  have hopening : '\n' ∉ s.body.opening.toList := by
    have htypes := h.types
    cases hbody : s.body with
    | choice names =>
        rw [hbody] at htypes
        have hnames : '\n' ∉ (" | ".intercalate names).toList := newline_not_mem_intercalate htypes
        simp [Body.opening, -String.toList_intercalate, hnames]
    | object => simp [Body.opening]
    | enumeration => simp [Body.opening]
  simp [Statement.header, hkeyword, hword, h.name, hopening]

theorem inner (h : s.Unbroken) : ∀ line ∈ s.body.inner, '\n' ∉ line.toList := by
  obtain ⟨name, body⟩ := s
  cases body with
  | choice names => simp [Body.inner]
  | object properties =>
      rw [Body.inner, List.forall_mem_map]
      intro property hmem
      exact newline_not_mem_propertyLine (h.keys _ (List.mem_map_of_mem hmem))
        (h.types _ (List.mem_map_of_mem hmem))
  | enumeration members =>
      rw [Body.inner, List.forall_mem_map]
      intro member hmem
      exact newline_not_mem_memberLine (h.keys _ (List.mem_map_of_mem hmem))

theorem lines (h : s.Unbroken) (exported : Bool) :
    ∀ line ∈ s.lines exported, '\n' ∉ line.toList := by
  rw [Statement.lines, List.forall_mem_cons, List.forall_mem_append]
  refine ⟨h.header exported, h.inner, ?_⟩
  unfold Body.closing
  split <;> decide

end Statement.Unbroken

theorem toList_text (exported : Bool) (s : Statement) :
    (s.text exported).toList = ((s.lines exported).map String.toList).flatMap (· ++ ['\n']) := by
  simp [Statement.text, String.toList_join, List.flatMap_map]

theorem toList_source (exported : Bool) (ss : List Statement) :
    (source exported ss).toList =
      ((ss.flatMap (Statement.lines exported)).map String.toList).flatMap (· ++ ['\n']) := by
  simp [source, String.toList_join, List.flatMap_map, toList_text, List.flatMap_assoc]

/-- Cut at its line feeds, the text of statements is their lines, and nothing behind them. -/
theorem split_source {ss : List Statement} (h : ∀ s ∈ ss, s.Unbroken) (exported : Bool) :
    Text.split '\n' (source exported ss).toList =
      (ss.flatMap (Statement.lines exported)).map String.toList ++ [[]] := by
  have hlines : ∀ line ∈ (ss.flatMap (Statement.lines exported)).map String.toList,
      '\n' ∉ line := by
    rw [List.forall_mem_map]
    intro line hline
    obtain ⟨s, hs, hline⟩ := List.mem_flatMap.1 hline
    exact (h s hs).lines exported line hline
  rw [toList_source, ← List.append_nil (List.flatMap _ _), Text.split_lines hlines]
  rfl

theorem Statement.unbroken_ofDefinition {d : Definition} (hname : isIdentifier name = true)
    (htypes : ∀ type ∈ (Body.ofDefinition d).types, isIdentifier type = true) :
    Statement.Unbroken ⟨name, .ofDefinition d⟩ where
  name := newline_not_mem_of_isIdentifier hname
  types := fun type htype => newline_not_mem_of_isIdentifier (htypes type htype)
  keys := by
    rw [keys_ofDefinition, List.forall_mem_map]
    exact fun name _ => newline_not_mem_propertyKey name

/-! ## Declared names -/

/-- The name that a line declares: the identifier behind the keywords at its start. -/
def declaredName? (exported : Bool) (line : List Char) : Option String :=
  ["type ", "enum "].findSome? fun word =>
    let start := (keyword exported ++ word).toList
    if start.isPrefixOf line then
      some (String.ofList ((line.drop start.length).takeWhile isIdentifierChar))
    else none

/-- The names that a text declares, line by line. -/
def declaredNames (exported : Bool) (code : String) : List String :=
  (Text.split '\n' code.toList).filterMap (declaredName? exported)

theorem takeWhile_name (h : isIdentifier name = true) (rest : List Char) :
    (name.toList ++ ' ' :: rest).takeWhile isIdentifierChar = name.toList := by
  rw [List.takeWhile_append_of_pos fun c hc => isIdentifierChar_of_mem h hc,
    List.takeWhile_cons_of_neg (by decide), List.append_nil]

theorem declaredName?_header {s : Statement} (h : isIdentifier s.name = true) (exported : Bool) :
    declaredName? exported (s.header exported).toList = some s.name := by
  obtain ⟨name, body⟩ := s
  have hword : body.word = "type " ∨ body.word = "enum " := by
    cases body <;> simp [Body.word]
  rcases hword with hword | hword <;> cases exported <;>
    simp [Statement.header, hword, declaredName?, keyword, takeWhile_name h]

theorem declaredName?_indented (exported : Bool) (rest : List Char) :
    declaredName? exported (' ' :: rest) = none := by
  cases exported <;> simp [declaredName?, keyword]

/-- The lines behind the first declare nothing: they are indented, or they close the statement. -/
theorem declaredName?_eq_none (body : Body) (exported : Bool) :
    ∀ line ∈ body.inner ++ body.closing, declaredName? exported line.toList = none := by
  rw [List.forall_mem_append]
  constructor
  · intro line hline
    have hindented : ∃ rest, line.toList = ' ' :: rest := by
      cases body with
      | choice names => simp [Body.inner] at hline
      | object properties =>
          obtain ⟨⟨key, type, modifier⟩, -, rfl⟩ := List.mem_map.1 hline
          rcases modifier with _ | _ | _ <;> exact ⟨_, by simp [propertyLine]; rfl⟩
      | enumeration members =>
          obtain ⟨member, -, rfl⟩ := List.mem_map.1 hline
          exact ⟨_, by simp [memberLine]; rfl⟩
    obtain ⟨rest, hrest⟩ := hindented
    rw [hrest, declaredName?_indented]
  · unfold Body.closing
    split <;> cases exported <;> decide

theorem filterMap_lines {s : Statement} (h : isIdentifier s.name = true) (exported : Bool) :
    (s.lines exported).filterMap (fun line => declaredName? exported line.toList) = [s.name] := by
  have hrest : (s.body.inner ++ s.body.closing).filterMap
      (fun line => declaredName? exported line.toList) = [] :=
    List.filterMap_eq_nil_iff.2 (declaredName?_eq_none s.body exported)
  rw [Statement.lines, List.filterMap_cons, declaredName?_header h, hrest]

theorem filterMap_flatMap_lines {ss : List Statement}
    (h : ∀ s ∈ ss, isIdentifier s.name = true) (exported : Bool) :
    (ss.flatMap (Statement.lines exported)).filterMap
      (fun line => declaredName? exported line.toList) = ss.map Statement.name := by
  induction ss with
  | nil => rfl
  | cons s ss ih =>
      rw [List.forall_mem_cons] at h
      rw [List.flatMap_cons, List.filterMap_append, filterMap_lines h.1, ih h.2]
      rfl

/-- The text of statements declares their names, each as often as there are statements for it. -/
theorem declaredNames_source {ss : List Statement} (h : ∀ s ∈ ss, s.Unbroken)
    (hnames : ∀ s ∈ ss, isIdentifier s.name = true) (exported : Bool) :
    declaredNames exported (source exported ss) = ss.map Statement.name := by
  have hlast : declaredName? exported [] = none := by cases exported <;> rfl
  rw [declaredNames, split_source h, List.filterMap_append, List.filterMap_map]
  simp [filterMap_flatMap_lines hnames, hlast]

end TypeScript

end Codec

end Scaffold
