/-
Members of generated types. Fields of one transfer object, those for paging included, are told apart by
their names exactly when the names that they are made from are spelled differently
(`Dto.nodup_memberNames`), and so are the members of an enum without given names
(`Api.Schema.nodup_enumMembers`).
-/
import Scaffold.Api.Schema
import Scaffold.Generate.Dto
import Scaffold.Proofs.Keyed
import Scaffold.Proofs.Text.Words

namespace Scaffold

/-! ## Names of members -/

namespace Target

/-- A name with a mark in front if it is a keyword. -/
def escaped (mark : String) (isKeyword : String → Bool) (name : String) : String :=
  if isKeyword name then mark ++ name else name

/-- Escaped names can be told apart by a sign of the mark that no name has. -/
theorem escaped_inj (mark : String) (isKeyword : String → Bool) {name name' : String} {sign : Char}
    (inside : sign ∈ mark.toList) (free : sign ∉ name.toList) (free' : sign ∉ name'.toList) :
    escaped mark isKeyword name = escaped mark isKeyword name' ↔ name = name' := by
  have marked {name name' : String} (free' : sign ∉ name'.toList) : mark ++ name ≠ name' := by
    rintro rfl
    exact free' (by simp [inside])
  unfold escaped
  split <;> split
  · exact String.append_right_inj mark
  · next keyword other =>
    refine iff_of_false (marked free') ?_
    rintro rfl
    exact other keyword
  · next other keyword =>
    refine iff_of_false (marked free).symm ?_
    rintro rfl
    exact other keyword
  · rfl

/-- What a language keeps of the name of a member. -/
def spelling : Target → String → List (List Char)
  | .rust, name => Text.smallWords name
  | _, name => Text.spelling name

theorem memberName_eq_iff {target : Target} {name name' : String}
    (ascii : target ≠ .rust → Text.IsAscii name ∧ Text.IsAscii name') :
    target.memberName name = target.memberName name' ↔ target.spelling name = target.spelling name' := by
  cases target with
  | csharp =>
    obtain ⟨ascii, ascii'⟩ := ascii (by decide)
    exact (escaped_inj "@" isCSharpKeyword (by decide)
      (Text.at_notMem_pascalCase name) (Text.at_notMem_pascalCase name')).trans
        (Text.pascalCase_eq_iff ascii ascii')
  | typescript =>
    obtain ⟨ascii, ascii'⟩ := ascii (by decide)
    exact Text.camelCase_eq_iff ascii ascii'
  | rust =>
    exact (escaped_inj "r#" isRustKeyword (by decide)
      (Text.hash_notMem_snakeCase name) (Text.hash_notMem_snakeCase name')).trans Text.snakeCase_eq_iff

end Target

/-! ## Transfer objects -/

namespace Dto

variable {target : Target} {config : Config} {e : Entity} {kind : DtoKind}

/-- The members for paging, which stand in the templates as they are. -/
def pagingMembers (target : Target) (kind : DtoKind) : List String :=
  if hasPaging target kind then
    match target with
    | .csharp => []
    | .typescript => ["pageIndex", "pageSize"]
    | .rust => ["page_index", "page_size"]
  else []

/-- The names of all members of a transfer object. -/
def memberNames (target : Target) (config : Config) (e : Entity) (kind : DtoKind) : List String :=
  (fields target config e kind).map (·.name) ++ pagingMembers target kind

/-- The names that the members are made from. -/
def memberSources (target : Target) (config : Config) (e : Entity) (kind : DtoKind) : List String :=
  (e.dtoProperties kind config).map (·.name) ++
    if hasPaging target kind then ["pageIndex", "pageSize"] else []

theorem pagingMembers_eq (target : Target) (kind : DtoKind) :
    pagingMembers target kind =
      (if hasPaging target kind then ["pageIndex", "pageSize"] else []).map target.memberName := by
  cases target <;> cases kind <;> decide

theorem memberNames_eq (target : Target) (config : Config) (e : Entity) (kind : DtoKind) :
    memberNames target config e kind = (memberSources target config e kind).map target.memberName := by
  rw [memberNames, memberSources, List.map_append, pagingMembers_eq, fields, List.map_map, List.map_map]
  rfl

theorem nodup_memberNames
    (ascii : target ≠ .rust → ∀ p ∈ e.dtoProperties kind config, Text.IsAscii p.name) :
    (memberNames target config e kind).Nodup ↔
      ((memberSources target config e kind).map target.spelling).Nodup := by
  have sources_ascii (other : target ≠ .rust) (name : String)
      (mem : name ∈ memberSources target config e kind) : Text.IsAscii name := by
    rcases List.mem_append.mp mem with own | paging
    · obtain ⟨p, p_mem, rfl⟩ := List.mem_map.mp own
      exact ascii other p p_mem
    · have all : ∀ name ∈ ["pageIndex", "pageSize"], Text.IsAscii name := by decide
      split at paging
      · exact all name paging
      · cases paging
  rw [memberNames_eq]
  exact nodup_map_congr fun name mem name' mem' => Target.memberName_eq_iff fun other =>
    ⟨sources_ascii other name mem, sources_ascii other name' mem'⟩

end Dto

/-! ## Enums -/

/-- The text of a value without the quotes around it. -/
def unquoted (value : String) : String :=
  stripQuotes '"' (stripQuotes '\x27' value)

/-- The words of an enum member, which start with a letter. -/
def valued : List (List Char) → List (List Char)
  | [] => ["value".toList]
  | first :: rest =>
    if first.head?.any Char.isDigit then ("value".toList ++ first) :: rest else first :: rest

/-- How the name of an enum member is spelled. -/
def memberSpelling (value : String) : List (List Char) :=
  valued (Text.spelling (unquoted value))

theorem mem_of_mem_stripQuotes {quote c : Char} {s : String} (mem : c ∈ (stripQuotes quote s).toList) :
    c ∈ s.toList := by
  rw [stripQuotes, String.toList_ofList, List.mem_reverse] at mem
  have inside := (List.dropWhile_sublist _).subset mem
  rw [List.mem_reverse] at inside
  exact (List.dropWhile_sublist _).subset inside

theorem isAscii_unquoted {value : String} (ascii : Text.IsAscii value) : Text.IsAscii (unquoted value) :=
  fun c mem => ascii c (mem_of_mem_stripQuotes (mem_of_mem_stripQuotes mem))

theorem spelled_valued {ws : List (List Char)} (spelled : Text.Spelled ws) : Text.Spelled (valued ws) := by
  have word (c : Char) (mem : c ∈ "value".toList) : Text.IsPlain c :=
    .inl (List.all_eq_true.mp (show "value".toList.all Char.isLower = true by decide) c mem)
  unfold valued
  split
  · exact .cons (by decide) word Text.spelled_nil (by simp)
  · next first rest =>
    split
    · exact spelled.prepend word
    · exact spelled

/-- A name with a word in front if it would be empty or start with a digit. -/
def withLead (name : String) : String :=
  match name.toList with
  | [] => "Value"
  | c :: _ => if c.isDigit then "Value" ++ name else name

theorem enumMemberName_eq (value : String) :
    enumMemberName value = withLead (Text.pascalCase (unquoted value)) := by
  unfold enumMemberName unquoted
  generalize Text.pascalCase _ = name
  rfl

theorem withLead_pascal {ws : List (List Char)} (spelled : Text.Spelled ws) :
    withLead (String.ofList (Text.pascal ws)) = String.ofList (Text.pascal (valued ws)) := by
  cases ws with
  | nil => rfl
  | cons first rest =>
    obtain ⟨c, cs, rfl⟩ := List.exists_cons_of_ne_nil (spelled.ne_nil first List.mem_cons_self)
    have plain := spelled.plain _ List.mem_cons_self c List.mem_cons_self
    have chars : (String.ofList (Text.pascal ((c :: cs) :: rest))).toList =
        c.toUpper :: (cs ++ Text.pascal rest) := String.toList_ofList
    rw [withLead, valued]
    simp only [chars, plain.isDigit_toUpper]
    by_cases digit : c.isDigit = true
    · have word : "Value" = String.ofList (Text.capitalised "value".toList) := by decide
      rw [if_pos digit, if_pos (by simpa using digit), word, ← String.ofList_append]
      refine congrArg String.ofList ?_
      show _ ++ (c.toUpper :: (cs ++ Text.pascal rest)) = _
      rw [Text.toUpper_of_isDigit digit]
      rfl
    · rw [if_neg digit, if_neg (by simpa using digit)]

theorem enumMemberName_eq_iff {value value' : String} (ascii : Text.IsAscii value)
    (ascii' : Text.IsAscii value') :
    enumMemberName value = enumMemberName value' ↔ memberSpelling value = memberSpelling value' := by
  have spelled := Text.spelled_spelling (isAscii_unquoted ascii)
  have spelled' := Text.spelled_spelling (isAscii_unquoted ascii')
  rw [enumMemberName_eq, enumMemberName_eq, Text.pascalCase_eq (isAscii_unquoted ascii),
    Text.pascalCase_eq (isAscii_unquoted ascii'), withLead_pascal spelled, withLead_pascal spelled',
    String.ofList_inj]
  exact (spelled_valued spelled).pascal_inj (spelled_valued spelled')

namespace Api.Schema

variable {schema : Json} {values : List Json}

/-- The text that stands for a value. -/
def rawText (value : Json) : String :=
  value.str?.getD value.text

/-- The texts of the values that are not null. -/
def rawTexts (values : List Json) : List String :=
  (values.filter (!isJsonNull ·)).map rawText

/-- Without given names members are named after their values. -/
theorem names_enumMembers (unnamed : ∀ name ∈ texts schema ["x-enum-varnames", "x-enumNames"], name = "") :
    (enumMembers schema values).map (·.name) = (rawTexts values).map enumMemberName := by
  have none_given (i : Nat) :
      (texts schema ["x-enum-varnames", "x-enumNames"])[i]?.filter (!·.isEmpty) = none := by
    rw [Option.filter_eq_none_iff]
    intro name found
    simp [unnamed name (List.mem_of_getElem? found)]
  have named : (enumMembers schema values).map (·.name) = values.zipIdx.filterMap fun v =>
      if isJsonNull v.1 then none else some (enumMemberName (rawText v.1)) := by
    unfold enumMembers
    rw [List.map_filterMap]
    refine List.filterMap_congr fun v _ => ?_
    by_cases null : isJsonNull v.1 = true
    · simp only [null, if_true, Option.map_none]
    · have present := Bool.of_not_eq_true null
      simp only [present, none_given, Option.getD_none, Option.map_some, rawText, Bool.false_eq_true, if_false]
  have kept (values : List Json) :
      (values.filterMap fun v => if isJsonNull v then none else some (enumMemberName (rawText v))) =
        (rawTexts values).map enumMemberName := by
    induction values with
    | nil => rfl
    | cons v rest ih =>
      rw [List.filterMap_cons, ih, rawTexts, rawTexts, List.filter_cons]
      cases isJsonNull v <;> simp
  rw [named, ← kept]
  conv_rhs => rw [← List.zipIdx_map_fst 0 values, List.filterMap_map]
  rfl

theorem nodup_enumMembers
    (unnamed : ∀ name ∈ texts schema ["x-enum-varnames", "x-enumNames"], name = "")
    (ascii : ∀ text ∈ rawTexts values, Text.IsAscii text) :
    ((enumMembers schema values).map (·.name)).Nodup ↔ ((rawTexts values).map memberSpelling).Nodup := by
  rw [names_enumMembers unnamed]
  exact nodup_map_congr fun text mem text' mem' =>
    enumMemberName_eq_iff (ascii text mem) (ascii text' mem')

end Api.Schema

/-! ## All members -/

/-- The members of a generated type are distinct exactly when the names or values that they are made from
are spelled differently. -/
theorem nodup_members (e : Entity) (kind : DtoKind) (config : Config) (target : Target) (schema : Json)
    (values : List Json) :
    ((target ≠ .rust → ∀ p ∈ e.dtoProperties kind config, Text.IsAscii p.name) →
      ((Dto.memberNames target config e kind).Nodup ↔
        ((Dto.memberSources target config e kind).map target.spelling).Nodup)) ∧
    ((∀ name ∈ Api.Schema.texts schema ["x-enum-varnames", "x-enumNames"], name = "") →
      (∀ text ∈ Api.Schema.rawTexts values, Text.IsAscii text) →
      (((Api.Schema.enumMembers schema values).map (·.name)).Nodup ↔
        ((Api.Schema.rawTexts values).map memberSpelling).Nodup)) :=
  ⟨Dto.nodup_memberNames, Api.Schema.nodup_enumMembers⟩

/-- A page of a book, with a property that filters have for paging too. -/
def page : Entity :=
  { Entity.empty "Page" "Library" with
    properties := [.scalar "Number" "int", { Property.scalar "PageIndex" "int" with isRequired := true }] }

/-- Values of which two differ in their signs only. -/
def signs : List Json :=
  [.number (.natural 1), .null, .string "one", .number (.negative 1)]

theorem nodup_members_page :
    (∀ p ∈ page.dtoProperties .detail {}, Text.IsAscii p.name) ∧
      (∀ text ∈ Api.Schema.rawTexts (signs.take 3), Text.IsAscii text) ∧
      (Dto.memberNames .typescript {} page .detail).Nodup ∧
      ((Api.Schema.enumMembers .null (signs.take 3)).map (·.name)).Nodup := by
  have ascii : ∀ p ∈ page.dtoProperties .detail {}, Text.IsAscii p.name := by decide
  have texts_ascii : ∀ text ∈ Api.Schema.rawTexts (signs.take 3), Text.IsAscii text := by decide
  obtain ⟨fields, members⟩ := nodup_members page .detail {} .typescript .null (signs.take 3)
  exact ⟨ascii, texts_ascii, (fields fun _ => ascii).mpr (by decide),
    (members (by decide) texts_ascii).mpr (by decide)⟩

/-- An account with properties whose names differ in case and separators only. -/
def account : Entity :=
  { Entity.empty "Account" "Shop" with properties := [.scalar "userId" "long", .scalar "user_id" "long"] }

theorem account_members_clash :
    account.validate = .ok () ∧ page.validate = .ok () ∧
      Dto.memberNames .csharp {} account .detail = ["UserId", "UserId"] ∧
      Dto.memberNames .typescript {} page .filter = ["pageIndex", "pageIndex", "pageSize"] ∧
      (Api.Schema.enumMembers .null signs).map (·.name) = ["Value1", "One", "Value1"] := by
  refine ⟨rfl, rfl, ?_, ?_, ?_⟩ <;> decide

end Scaffold
