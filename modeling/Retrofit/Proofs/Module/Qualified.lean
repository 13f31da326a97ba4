import Retrofit.Instr.Matcher
import Retrofit.Proofs.Module.Belonging
import Retrofit.Proofs.Module.Denotation

/-!
Qualified names of the members of a module that its builders have made. Naming ends, since types come
behind the ones that enclose them, and members are found by their names. A matcher for a qualified name
accepts the calls of the method that is found by it (`Assembled.names_agree`).
-/

namespace Retrofit

theorem Matcher.anyCall_eq_true_iff {declaringType name : String} {opcode : Opcode} {ref : MemberRef} :
    anyCall declaringType name ⟨opcode, .member ref⟩ = true ↔
      opcode ∈ [Opcode.call, .callvirt] ∧ ref.kind = .method ∧
        ref.isNamed declaringType name = true := by
  simp [anyCall, memberAccess, Operand.member?]

namespace Module

variable {module : Module}

theorem Anchored.index_enclosing (anchored : module.Anchored) {id outer : TypeId} {type : TypeDef}
    (found : module.types[id.index]? = some type) (inside : type.enclosing = some outer) :
    outer.index < id.index :=
  anchored.enclosed id.index outer (by simp [found, inside])

theorem Anchored.mem_fieldsOf (anchored : module.Anchored) {id : FieldId} {owner : TypeId} :
    id ∈ module.fieldsOf owner ↔
      ∃ field, module.fields[id.index]? = some field ∧ field.declaringType = owner := by
  rw [fieldsOf, ← List.getElem?_map]
  refine (anchored.fields id.index owner).trans ?_
  rw [List.getElem?_map, Option.map_eq_some_iff]

theorem Anchored.mem_methodsOf (anchored : module.Anchored) {id : MethodId} {owner : TypeId} :
    id ∈ module.methodsOf owner ↔
      ∃ method, module.methods[id.index]? = some method ∧ method.declaringType = owner := by
  rw [methodsOf, ← List.getElem?_map]
  refine (anchored.methods id.index owner).trans ?_
  rw [List.getElem?_map, Option.map_eq_some_iff]

/-- The name of a type, which begins with that of the type that encloses it however deep it lies. -/
inductive FullName (module : Module) : TypeId → String → Prop where
  | unknown {id : TypeId} (absent : module.types[id.index]? = none) : FullName module id ""
  | top {id : TypeId} {type : TypeDef} (found : module.types[id.index]? = some type)
      (atTop : type.enclosing = none) :
      FullName module id (if type.space = "" then type.name else type.space ++ "." ++ type.name)
  | nested {id outer : TypeId} {type : TypeDef} {outerName : String}
      (found : module.types[id.index]? = some type) (inside : type.enclosing = some outer)
      (named : FullName module outer outerName) : FullName module id (outerName ++ "/" ++ type.name)

theorem FullName.unique {id : TypeId} {name other : String} (named : module.FullName id name)
    (namedToo : module.FullName id other) : name = other := by
  induction named generalizing other with
  | unknown absent =>
    cases namedToo with
    | unknown => rfl
    | top found => cases absent.symm.trans found
    | nested found => cases absent.symm.trans found
  | top found atTop =>
    cases namedToo with
    | unknown absent => cases absent.symm.trans found
    | top foundToo =>
      cases found.symm.trans foundToo
      rfl
    | nested foundToo inside =>
      cases found.symm.trans foundToo
      cases atTop.symm.trans inside
  | nested found inside _ ih =>
    cases namedToo with
    | unknown absent => cases absent.symm.trans found
    | top foundToo atTop =>
      cases found.symm.trans foundToo
      cases atTop.symm.trans inside
    | nested foundToo insideToo named =>
      cases found.symm.trans foundToo
      cases inside.symm.trans insideToo
      rw [ih named]

/-- The depth to which names are made up suffices, as enclosing types come in front. -/
theorem Anchored.fullName_nameWithin (anchored : module.Anchored) {depth : Nat} {id : TypeId}
    (enough : id.index < depth) : module.FullName id (module.nameWithin depth id) := by
  induction depth generalizing id with
  | zero => exact absurd enough (Nat.not_lt_zero _)
  | succ depth ih =>
    rw [nameWithin]
    cases found : module.types[id.index]? with
    | none => exact .unknown found
    | some type =>
      dsimp only
      cases inside : type.enclosing with
      | none => exact .top found inside
      | some outer =>
        -- the enclosing type has a smaller index, so that the depth that is left suffices for it
        have before : outer.index < id.index := anchored.index_enclosing found inside
        exact .nested found inside (ih (Nat.lt_of_lt_of_le before (Nat.le_of_lt_succ enough)))

/-- Every type has one name. -/
theorem Anchored.fullName_iff (anchored : module.Anchored) {id : TypeId} {name : String} :
    module.FullName id name ↔ name = module.typeName id := by
  have named : module.FullName id (module.typeName id) := by
    by_cases known : id.index < module.types.length
    · exact anchored.fullName_nameWithin known
    · have absent := List.getElem?_eq_none (Nat.le_of_not_lt known)
      have nameless : module.typeName id = "" := by
        rw [typeName]
        cases module.types.length <;> simp [nameWithin, absent]
      exact nameless ▸ .unknown absent
  exact ⟨fun other => other.unique named, fun same => same ▸ named⟩

/-- Whether a method goes by a text. -/
def methodGoesBy (module : Module) (text : String) (id : MethodId) : Bool :=
  (module.methods[id.index]?).any fun method => method.isNamed text

/-- Whether a field goes by a text. -/
def fieldGoesBy (module : Module) (text : String) (id : FieldId) : Bool :=
  (module.fields[id.index]?).any fun field => field.name = text

theorem findMethod?_eq (module : Module) (owner : TypeId) (text : String) :
    module.findMethod? owner text = (module.methodsOf owner).find? (module.methodGoesBy text) := by
  rw [findMethod?, methodsOf]
  cases module.types[owner.index]? <;> rfl

theorem findField?_eq (module : Module) (owner : TypeId) (name : String) :
    module.findField? owner name = (module.fieldsOf owner).find? (module.fieldGoesBy name) := by
  rw [findField?, fieldsOf]
  cases module.types[owner.index]? <;> rfl

/-- A text that picks a member out of some: none in front goes by it. And there is no colon in it, so
that it cannot be taken for the end of a type's name. -/
structure Picks [DecidableEq ι] (goesBy : String → ι → Bool) (ids : List ι) (id : ι)
    (text : String) : Prop where
  plain : ':' ∉ text.toList
  first : ∀ other ∈ ids.takeWhile (· ≠ id), goesBy text other = false

theorem Picks.find?_eq [DecidableEq ι] {goesBy : String → ι → Bool} {ids : List ι} {id : ι}
    {text : String} (picks : Picks goesBy ids id text) (listed : id ∈ ids)
    (goes : goesBy text id = true) : ids.find? (goesBy text) = some id :=
  find?_eq_some_iff_takeWhile.2 ⟨listed, goes, picks.first⟩

section Resolving

variable {find : TypeId → String → Option ι} {id : ι} {owner : TypeId} {qualified : String}

theorem resolve_eq_ok : resolve find module qualified = .ok id ↔
    ∃ type member, Text.cutLast? [':', ':'] qualified.toList = some (type, member) ∧
      ∃ owner, module.findType? (String.ofList type) = some owner ∧
        find owner (String.ofList member) = some id := by
  rw [resolve]
  cases Text.cutLast? [':', ':'] qualified.toList with
  | none => simp
  | some parts =>
    obtain ⟨type, member⟩ := parts
    cases found : module.findType? (String.ofList type) with
    | none => simp [found]
    | some owner =>
      cases finds : find owner (String.ofList member) <;> simp [found, finds]

/-- A text without colon behind the name of a type is looked for in the type. -/
theorem resolve_behind {text : String} (plain : ':' ∉ text.toList)
    (found : module.findType? (module.typeName owner) = some owner)
    (finds : find owner text = some id) :
    resolve find module (module.typeName owner ++ "::" ++ text) = .ok id := by
  have cut : Text.cutLast? [':', ':'] (module.typeName owner ++ "::" ++ text).toList =
      some ((module.typeName owner).toList, text.toList) := by
    rw [String.toList_append, String.toList_append]
    exact Text.cutLast?_doubled _ plain
  rw [resolve_eq_ok]
  refine ⟨_, _, cut, owner, ?_, ?_⟩
  · rwa [String.ofList_toList]
  · rwa [String.ofList_toList]

end Resolving

variable {owner : TypeId} {qualified : String}

theorem Anchored.fieldNamed_fieldName (anchored : module.Anchored)
    (first : module.findType? (module.typeName owner) = some owner) {id : FieldId}
    {field : FieldDef} (listed : module.fields[id.index]? = some field)
    (owned : field.declaringType = owner)
    (picks : Picks module.fieldGoesBy (module.fieldsOf owner) id field.name) :
    module.fieldNamed (module.fieldName id) = .ok id := by
  have held : id ∈ module.fieldsOf owner := anchored.mem_fieldsOf.2 ⟨field, listed, owned⟩
  have goes : module.fieldGoesBy field.name id = true := by simp [fieldGoesBy, listed]
  have finds : module.findField? owner field.name = some id :=
    (module.findField?_eq owner field.name).trans (picks.find?_eq held goes)
  simp only [fieldName, listed, owned]
  exact resolve_behind picks.plain first finds

/-- A method is found by a text by which it goes, behind the name of its type. -/
theorem Anchored.methodNamed_behind (anchored : module.Anchored)
    (first : module.findType? (module.typeName owner) = some owner) {id : MethodId}
    {method : MethodDef} (listed : module.methods[id.index]? = some method)
    (owned : method.declaringType = owner) {text : String} (named : method.isNamed text = true)
    (picks : Picks module.methodGoesBy (module.methodsOf owner) id text) :
    module.methodNamed (module.typeName owner ++ "::" ++ text) = .ok id := by
  have held : id ∈ module.methodsOf owner := anchored.mem_methodsOf.2 ⟨method, listed, owned⟩
  have goes : module.methodGoesBy text id = true := by simp [methodGoesBy, listed, named]
  have finds : module.findMethod? owner text = some id :=
    (module.findMethod?_eq owner text).trans (picks.find?_eq held goes)
  exact resolve_behind picks.plain first finds

/-- A matcher for a qualified name accepts the calls of the method of that name. -/
theorem Anchored.anyCall_of_methodNamed (anchored : module.Anchored) {id : MethodId}
    (resolved : module.methodNamed qualified = .ok id) :
    ∃ ref, module.refToMethod id = .ok ref ∧ ∀ opcode ∈ [Opcode.call, .callvirt],
      Matcher.anyCall (cutQualified qualified).1 (cutQualified qualified).2
        ⟨opcode, .member ref⟩ = true := by
  obtain ⟨type, member, cut, owner, found, finds⟩ := resolve_eq_ok.1 resolved
  rw [findMethod?_eq] at finds
  obtain ⟨method, listed, owned⟩ := anchored.mem_methodsOf.1 (List.mem_of_find?_eq_some finds)
  have goes := List.find?_some finds
  rw [methodGoesBy, listed, Option.any_some, MethodDef.isNamed] at goes
  have named : module.typeName owner = String.ofList type := (findType?_eq_some_iff.1 found).2.1
  have parts : cutQualified qualified = (module.typeName owner, String.ofList member) := by
    rw [cutQualified, cut, named]
  refine ⟨.method (module.typeName owner) method.name method.signature, ?_, fun opcode either => ?_⟩
  · rw [refToMethod, methodAt, listed, ← owned]
    rfl
  · have accepts : (MemberRef.method (module.typeName owner) method.name method.signature).isNamed
        (module.typeName owner) (String.ofList member) = true := by
      rw [MemberRef.isNamed, MemberRef.method, decide_eq_true rfl, Bool.or_true, Bool.and_true]
      exact goes
    rw [parts]
    exact Matcher.anyCall_eq_true_iff.2 ⟨either, rfl, accepts⟩

/-- Qualified names, what is found by them, and matchers. Enclosing types come in front, so that every
type has one name. A type that is the first of its name is found by it. Its fields and methods are found
by their qualified names, and methods by their signatures as well, where the text behind the name of the
type has no colon and no member in front goes by it. And whatever text a method is found by, the matcher
for calls that is made from that text accepts both kinds of calls of the method. -/
theorem Assembled.names_agree (assembled : module.Assembled) :
    ((∀ (id : TypeId) (type : TypeDef) (outer : TypeId), module.types[id.index]? = some type →
        type.enclosing = some outer → outer.index < id.index) ∧
      ∀ id name, module.FullName id name ↔ name = module.typeName id) ∧
    (∀ owner : TypeId, owner.index < module.types.length →
      (∀ other : TypeId, other.index < owner.index →
        module.typeName other ≠ module.typeName owner) →
      module.findType? (module.typeName owner) = some owner ∧
      (∀ (id : FieldId) (field : FieldDef), module.fields[id.index]? = some field →
        field.declaringType = owner →
        Picks module.fieldGoesBy (module.fieldsOf owner) id field.name →
          module.fieldNamed (module.fieldName id) = .ok id) ∧
      ∀ (id : MethodId) (method : MethodDef), module.methods[id.index]? = some method →
        method.declaringType = owner →
        (Picks module.methodGoesBy (module.methodsOf owner) id method.name →
          module.methodNamed (module.methodName id) = .ok id) ∧
        (Picks module.methodGoesBy (module.methodsOf owner) id method.signature →
          module.methodNamed (module.typeName owner ++ "::" ++ method.signature) = .ok id)) ∧
    ∀ qualified id, module.methodNamed qualified = .ok id →
      ∃ ref, module.refToMethod id = .ok ref ∧ ∀ opcode ∈ [Opcode.call, .callvirt],
        Matcher.anyCall (cutQualified qualified).1 (cutQualified qualified).2
          ⟨opcode, .member ref⟩ = true := by
  have anchored := assembled.anchored
  refine ⟨⟨fun _ _ _ => anchored.index_enclosing, fun _ _ => anchored.fullName_iff⟩,
    fun owner known foremost => ?_, fun _ _ => anchored.anyCall_of_methodNamed⟩
  have first := findType?_eq_some_iff.2 ⟨known, rfl, foremost⟩
  refine ⟨first, fun _ _ => anchored.fieldNamed_fieldName first, fun id method listed owned =>
    ⟨fun picks => ?_, ?_⟩⟩
  · have name : module.methodName id = module.typeName owner ++ "::" ++ method.name := by
      simp only [methodName, listed, owned]
    rw [name]
    exact anchored.methodNamed_behind first listed owned (by simp [MethodDef.isNamed]) picks
  · exact anchored.methodNamed_behind first listed owned (by simp [MethodDef.isNamed])

/-- A nested type with a field and two overloads, and another type that goes by the name of it. -/
def paged : Module :=
  let module : Module := ((addType "Game" "Menu").apply { name := "Game" }).2
  let module := ((addNestedType ⟨0⟩ "Page").apply module).2
  let module := ((addField ⟨1⟩
    { name := "title", type := "System.String", flags := 0, declaringType := ⟨1⟩ }).apply module).2
  let module := ((addMethod ⟨1⟩
    { name := "Show", returnType := "System.Void", declaringType := ⟨1⟩ }).apply module).2
  let module := ((addMethod ⟨1⟩
    { name := "Show", returnType := "System.Void", params := ["System.Int32"],
      declaringType := ⟨1⟩ }).apply module).2
  ((addType "Game" "Menu/Page").apply module).2

theorem assembled_paged : paged.Assembled :=
  .type (.method (.method (.field (.nestedType (.type (.empty "Game") _ _) _ _) _ _) _ _) _ _) _ _

/-- The first overload is found by its name, the second one by its signature only. -/
theorem names_agree_paged :
    paged.findType? "Game.Menu/Page" = some ⟨1⟩ ∧
      paged.fieldNamed "Game.Menu/Page::title" = .ok ⟨0⟩ ∧
      paged.methodNamed "Game.Menu/Page::Show" = .ok ⟨0⟩ ∧
      ∃ ref, paged.refToMethod ⟨1⟩ = .ok ref ∧ ∀ opcode ∈ [Opcode.call, .callvirt],
        Matcher.anyCall "Game.Menu/Page" "System.Void Show(System.Int32)" ⟨opcode, .member ref⟩ =
          true := by
  obtain ⟨_, found, accepts⟩ := Assembled.names_agree assembled_paged
  have foremost : ∀ other : TypeId, other.index < 1 → paged.typeName other ≠ paged.typeName ⟨1⟩ := by
    rintro ⟨index⟩ before
    obtain rfl : index = 0 := Nat.lt_one_iff.1 before
    decide +kernel
  obtain ⟨type, fields, methods⟩ := found ⟨1⟩ (by decide) foremost
  have title := fields ⟨0⟩ _ rfl rfl ⟨by decide +kernel, by decide +kernel⟩
  have first := (methods ⟨0⟩ _ rfl rfl).1 ⟨by decide +kernel, by decide +kernel⟩
  have second := accepts _ _ ((methods ⟨1⟩ _ rfl rfl).2 ⟨by decide +kernel, by decide +kernel⟩)
  have typeName : paged.typeName ⟨1⟩ = "Game.Menu/Page" := by decide +kernel
  have fieldName : paged.fieldName ⟨0⟩ = "Game.Menu/Page::title" := by decide +kernel
  have methodName : paged.methodName ⟨0⟩ = "Game.Menu/Page::Show" := by decide +kernel
  have cut : cutQualified ("Game.Menu/Page" ++ "::" ++ MethodDef.signature
      { name := "Show", returnType := "System.Void", params := ["System.Int32"],
        declaringType := ⟨1⟩ }) = ("Game.Menu/Page", "System.Void Show(System.Int32)") := by
    decide +kernel
  rw [typeName] at type second
  rw [fieldName] at title
  rw [methodName] at first
  rw [cut] at second
  exact ⟨type, title, first, second⟩

end Module
end Retrofit
