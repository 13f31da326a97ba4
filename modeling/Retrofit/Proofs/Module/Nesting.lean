import Mathlib.Data.List.Count
import Mathlib.Data.List.Nodup
import Mathlib.Data.List.Perm.Basic
import Retrofit.Pass.Branches
import Retrofit.Proofs.Module.Members

/-!
How types nest. In a module made by its builders every type, field and method has one place, so that
the traversal of all types comes to each of them exactly once (`Forest.perm_membersAlong`).
-/

namespace Retrofit.Module

/-- A module made from an empty one by its builders. Between their calls all data may be set that
does not say what types hold. -/
inductive Built : Module → Prop where
  | empty (name : String) : Built { name }
  | type (built : Built module) (space name : String) :
      Built ((addType space name).apply module).2
  | nestedType (built : Built module) (enclosing : TypeId) (name : String) :
      Built ((addNestedType enclosing name).apply module).2
  | method (built : Built module) (owner : TypeId) (method : MethodDef) :
      Built ((addMethod owner method).apply module).2
  | field (built : Built module) (owner : TypeId) (field : FieldDef) :
      Built ((addField owner field).apply module).2
  | request (built : Built module) (member : MemberId) (request : Request) :
      Built ((attachRequest member request).apply module).2
  | dressed (built : Built module) (dressed : Module) (topLevel : dressed.topLevel = module.topLevel)
      (parts : dressed.types.map TypeDef.parts = module.types.map TypeDef.parts)
      (methods : dressed.methods.length = module.methods.length)
      (fields : dressed.fields.length = module.fields.length) : Built dressed

def typeIds (module : Module) : List TypeId := (List.range module.types.length).map TypeId.mk

def fieldIds (module : Module) : List FieldId := (List.range module.fields.length).map FieldId.mk

/-- The types nested in a type come behind it. -/
def Deepening (types : List TypeDef) : Prop :=
  ∀ (index : Nat) (type : TypeDef), types[index]? = some type →
    ∀ inner ∈ type.nested, index < inner.index

/-- Every type is at the top or nested in one other type, which comes before it. -/
structure Nests (topLevel : List TypeId) (types : List TypeDef) : Prop where
  placed : (topLevel ++ types.flatMap TypeDef.nested).Perm
    ((List.range types.length).map TypeId.mk)
  deeper : Deepening types

/-- The types nest, and every field and every method belongs to one type. -/
structure Forest (module : Module) : Prop where
  types : Nests module.topLevel module.types
  fields : (module.types.flatMap TypeDef.fields).Perm module.fieldIds
  methods : (module.types.flatMap TypeDef.methods).Perm module.methodIds

section Tables

variable {types : List TypeDef} {topLevel : List TypeId}

private theorem flatMap_modify (items : List α) (index : Nat) {change : α → α} {f : α → List ι}
    (same : ∀ item, f (change item) = f item) :
    (items.modify index change).flatMap f = items.flatMap f := by
  induction items generalizing index with
  | nil => cases index <;> rfl
  | cons first rest ih => cases index <;> simp [same, ih]

private theorem flatMap_modify_perm {items : List α} {index : Nat} {change : α → α}
    {f : α → List ι} {added : ι} (grown : ∀ item, f (change item) = f item ++ [added])
    (inside : index < items.length) :
    ((items.modify index change).flatMap f).Perm (items.flatMap f ++ [added]) := by
  induction items generalizing index with
  | nil => exact absurd inside (Nat.not_lt_zero _)
  | cons first rest ih =>
    cases index with
    | zero =>
      rw [List.modify_zero_cons, List.flatMap_cons, List.flatMap_cons, grown, List.append_assoc,
        List.append_assoc]
      exact List.perm_append_comm.append_left _
    | succ index =>
      rw [List.modify_succ_cons, List.flatMap_cons, List.flatMap_cons, List.append_assoc]
      exact (ih (Nat.lt_of_succ_lt_succ inside)).append_left _

private theorem flatMap_added {added : TypeDef} {f : TypeDef → List ι} (nothing : f added = []) :
    (types ++ [added]).flatMap f = types.flatMap f := by
  rw [List.flatMap_append, List.flatMap_singleton, nothing, List.append_nil]

private theorem perm_added {ids : Nat → ι} {items : List α} {placed : List ι} (added : α)
    (all : placed.Perm ((List.range items.length).map ids)) :
    (placed ++ [ids items.length]).Perm ((List.range (items ++ [added]).length).map ids) := by
  rw [List.length_append, List.length_singleton, List.range_succ, List.map_append,
    List.map_singleton]
  exact all.append_right _

private theorem Deepening.added (deeper : Deepening types) {added : TypeDef}
    (nothing : added.nested = []) : Deepening (types ++ [added]) := by
  intro index type found inner present
  rw [List.getElem?_append] at found
  split at found
  · exact deeper index type found inner present
  · rw [List.getElem?_singleton] at found
    split at found
    · cases found
      rw [nothing] at present
      cases present
    · cases found

theorem Nests.atTop (nests : Nests topLevel types) {added : TypeDef} (nothing : added.nested = []) :
    Nests (topLevel ++ [⟨types.length⟩]) (types ++ [added]) where
  placed := by
    rw [flatMap_added nothing, List.append_assoc]
    refine .trans (List.perm_append_comm.append_left _) ?_
    rw [← List.append_assoc]
    exact perm_added added nests.placed
  deeper := nests.deeper.added nothing

theorem Nests.inside (nests : Nests topLevel types) {index : Nat} (known : index < types.length)
    {added : TypeDef} (nothing : added.nested = []) :
    Nests topLevel
      (types.modify index (fun type => { type with nested := type.nested ++ [⟨types.length⟩] }) ++
        [added]) where
  placed := by
    rw [flatMap_added nothing, List.length_append, List.length_modify, ← List.length_append]
    refine .trans ((flatMap_modify_perm (fun _ => rfl) known).append_left _) ?_
    rw [← List.append_assoc]
    exact perm_added added nests.placed
  deeper := by
    refine Deepening.added (fun place type found inner present => ?_) nothing
    rw [List.getElem?_modify, Option.map_eq_map, Option.map_eq_some_iff] at found
    obtain ⟨old, was, becomes⟩ := found
    split at becomes
    · next same =>
      subst becomes same
      rcases List.mem_append.1 present with before | last
      · exact nests.deeper index old was inner before
      · rw [List.mem_singleton.1 last]
        exact known
    · subst becomes
      exact nests.deeper place old was inner present

theorem Nests.modify (nests : Nests topLevel types) (index : Nat) {change : TypeDef → TypeDef}
    (kept : ∀ type, (change type).nested = type.nested) :
    Nests topLevel (types.modify index change) where
  placed := by
    rw [List.length_modify, flatMap_modify _ _ kept]
    exact nests.placed
  deeper place type found inner present := by
    rw [List.getElem?_modify, Option.map_eq_map, Option.map_eq_some_iff] at found
    obtain ⟨old, was, becomes⟩ := found
    refine nests.deeper place old was inner ?_
    split at becomes
    · exact kept old ▸ becomes ▸ present
    · exact becomes ▸ present

end Tables

section Builders

variable {module : Module}

/-- The module that an edit of a type leaves when something else is done then. Where there is no such
type, nothing happens. -/
theorem after_changeType_bind (module : Module) (id : TypeId) (change : TypeDef → TypeDef)
    (next : Unit → Edit Module ι) :
    ((changeType id change >>= next).apply module).2 =
      if id.index < module.types.length then ((next ()).apply (module.withType id change)).2
      else module := by
  rw [Edit.apply_bind, apply_changeType]
  by_cases inside : id.index < module.types.length
  · simp only [typeAt, List.getElem?_eq_getElem inside, Except.map, inside, if_true]
  · have absent := Nat.le_of_not_lt inside
    simp only [typeAt, List.getElem?_eq_none absent, Except.map, withType, inside, if_false,
      List.modify_eq_self absent]

theorem Forest.empty (name : String) : Forest { name } where
  types := ⟨.refl _, nofun⟩
  fields := .refl _
  methods := .refl _

theorem Forest.type (forest : module.Forest) (space name : String) :
    ((addType space name).apply module).2.Forest where
  types := forest.types.atTop rfl
  fields := by
    refine .trans (.of_eq ?_) forest.fields
    exact flatMap_added rfl
  methods := by
    refine .trans (.of_eq ?_) forest.methods
    exact flatMap_added rfl

theorem Forest.nestedType (forest : module.Forest) (enclosing : TypeId) (name : String) :
    ((addNestedType enclosing name).apply module).2.Forest := by
  rw [addNestedType, Edit.apply_bind]
  simp only [Edit.apply_get]
  rw [after_changeType_bind, Edit.apply_bind]
  simp only [Edit.apply_modify, Edit.apply_pure]
  split
  case isFalse => exact forest
  case isTrue known =>
    refine ⟨forest.types.inside known rfl, ?_, ?_⟩
    · refine .trans (.of_eq ?_) forest.fields
      exact (flatMap_added rfl).trans (flatMap_modify _ _ fun _ => rfl)
    · refine .trans (.of_eq ?_) forest.methods
      exact (flatMap_added rfl).trans (flatMap_modify _ _ fun _ => rfl)

theorem Forest.method (forest : module.Forest) (owner : TypeId) (method : MethodDef) :
    ((addMethod owner method).apply module).2.Forest := by
  rw [addMethod, Edit.apply_bind]
  simp only [Edit.apply_get]
  rw [after_changeType_bind, Edit.apply_bind]
  simp only [Edit.apply_modify, Edit.apply_pure]
  split
  case isFalse => exact forest
  case isTrue known =>
    refine ⟨forest.types.modify _ fun _ => rfl, ?_, ?_⟩
    · refine .trans (.of_eq ?_) forest.fields
      exact flatMap_modify _ _ fun _ => rfl
    · exact .trans (flatMap_modify_perm (fun _ => rfl) known) (perm_added _ forest.methods)

theorem Forest.field (forest : module.Forest) (owner : TypeId) (field : FieldDef) :
    ((addField owner field).apply module).2.Forest := by
  rw [addField, Edit.apply_bind]
  simp only [Edit.apply_get]
  rw [after_changeType_bind, Edit.apply_bind]
  simp only [Edit.apply_modify, Edit.apply_pure]
  split
  case isFalse => exact forest
  case isTrue known =>
    refine ⟨forest.types.modify _ fun _ => rfl, ?_, ?_⟩
    · exact .trans (flatMap_modify_perm (fun _ => rfl) known) (perm_added _ forest.fields)
    · refine .trans (.of_eq ?_) forest.methods
      exact flatMap_modify _ _ fun _ => rfl

/-- What types hold decides everything that is read off it. -/
theorem flatMap_of_parts {after : Module}
    (parts : after.types.map TypeDef.parts = module.types.map TypeDef.parts)
    (f : List FieldId × List MethodId × List TypeId → List ι) :
    (after.types.flatMap fun type => f type.parts) =
      module.types.flatMap fun type => f type.parts := by
  have whole (module : Module) : (module.types.flatMap fun type => f type.parts) =
      (module.types.map TypeDef.parts).flatMap f := by
    rw [List.flatMap_map]
  rw [whole, whole, parts]

theorem Forest.of_parts {after : Module} (forest : module.Forest)
    (topLevel : after.topLevel = module.topLevel)
    (parts : after.types.map TypeDef.parts = module.types.map TypeDef.parts)
    (methods : after.methods.length = module.methods.length)
    (fields : after.fields.length = module.fields.length) : after.Forest where
  types := by
    refine ⟨?_, fun index type found inner present => ?_⟩
    · have count : after.types.length = module.types.length := by
        simpa using congrArg List.length parts
      rw [topLevel, count]
      exact flatMap_of_parts parts (fun parts => parts.2.2) ▸ forest.types.placed
    · have same : after.types[index]?.map TypeDef.parts = module.types[index]?.map TypeDef.parts := by
        rw [← List.getElem?_map, ← List.getElem?_map, parts]
      rw [found, Option.map_some] at same
      obtain ⟨old, was, held⟩ := Option.map_eq_some_iff.1 same.symm
      have nested : old.nested = type.nested := congrArg (fun parts => parts.2.2) held
      exact forest.types.deeper index old was inner (nested ▸ present)
  fields := by
    rw [fieldIds, fields]
    exact flatMap_of_parts parts (fun parts => parts.1) ▸ forest.fields
  methods := by
    rw [methodIds, methods]
    exact flatMap_of_parts parts (fun parts => parts.2.1) ▸ forest.methods

theorem Forest.changeInfo (forest : module.Forest) (member : MemberId)
    (change : MemberInfo → MemberInfo) :
    ((changeInfo member change).apply module).2.Forest := by
  have parts := parts_changeInfo module member change
  cases member with
  | type id =>
    rw [Module.changeInfo, apply_changeType] at parts ⊢
    exact forest.of_parts rfl parts rfl rfl
  | method id =>
    rw [Module.changeInfo, apply_changeMethod] at parts ⊢
    exact forest.of_parts rfl parts (List.length_modify ..) rfl
  | field id =>
    rw [Module.changeInfo, apply_changeField] at parts ⊢
    exact forest.of_parts rfl parts rfl (List.length_modify ..)

/-- A module made by its builders has a place for everything. -/
theorem Built.forest (built : module.Built) : module.Forest := by
  induction built with
  | empty name => exact .empty name
  | type _ space name ih => exact ih.type space name
  | nestedType _ enclosing name ih => exact ih.nestedType enclosing name
  | method _ owner method ih => exact ih.method owner method
  | field _ owner field ih => exact ih.field owner field
  | request _ member request ih => exact ih.changeInfo member _
  | dressed _ dressed topLevel parts methods fields ih =>
    exact ih.of_parts topLevel parts methods fields

end Builders

/-- Types in depth first order: a type, then the types nested in it in the order in which it names
them, each followed by its own, then the types beside it. -/
inductive DepthFirst (module : Module) : List TypeId → List TypeId → Prop where
  | nil : DepthFirst module [] []
  | cons {inner siblings outer : List TypeId} (id : TypeId)
      (inside : DepthFirst module (module.nestedIn id) inner)
      (beside : DepthFirst module siblings outer) :
      DepthFirst module (id :: siblings) (id :: (inner ++ outer))

variable {module : Module} {ids order : List TypeId}

theorem mem_nestedIn {id inner : TypeId} :
    inner ∈ module.nestedIn id ↔
      ∃ type, module.types[id.index]? = some type ∧ inner ∈ type.nested := by
  rw [nestedIn]
  cases module.types[id.index]? <;> simp

theorem mem_typeIds {id : TypeId} : id ∈ module.typeIds ↔ id.index < module.types.length := by
  rw [typeIds, List.mem_map]
  constructor
  · rintro ⟨index, listed, rfl⟩
    exact List.mem_range.1 listed
  · exact fun known => ⟨id.index, List.mem_range.2 known, rfl⟩

theorem Forest.index_nestedIn (forest : module.Forest) {id inner : TypeId}
    (present : inner ∈ module.nestedIn id) :
    id.index < inner.index ∧ inner.index < module.types.length := by
  obtain ⟨type, found, listed⟩ := mem_nestedIn.1 present
  refine ⟨forest.types.deeper id.index type found inner listed, ?_⟩
  have placed : inner ∈ module.types.flatMap TypeDef.nested :=
    List.mem_flatMap.2 ⟨type, List.mem_of_getElem? found, listed⟩
  exact mem_typeIds.1 (forest.types.placed.subset (List.mem_append_right _ placed))

/-- As many levels as there are types behind a type are enough for what is nested in it. -/
theorem Forest.depthFirst_subtree (forest : module.Forest) (depth : Nat)
    (known : ∀ id ∈ ids, id.index < module.types.length)
    (enough : ∀ id ∈ ids, module.types.length ≤ id.index + depth) :
    module.DepthFirst ids (ids.flatMap (module.subtree depth)) := by
  induction depth generalizing ids with
  | zero =>
    cases ids with
    | nil => exact .nil
    | cons id siblings =>
      have beyond := enough id List.mem_cons_self
      exact absurd (known id List.mem_cons_self) (Nat.not_lt.2 beyond)
  | succ depth ihDepth =>
    induction ids with
    | nil => exact .nil
    | cons id siblings ihSiblings =>
      have inside : module.DepthFirst (module.nestedIn id)
          ((module.nestedIn id).flatMap (module.subtree depth)) := by
        refine ihDepth (fun inner present => (forest.index_nestedIn present).2) fun inner present => ?_
        have deeper := (forest.index_nestedIn present).1
        have reach := enough id List.mem_cons_self
        omega
      have beside := ihSiblings (fun other listed => known other (List.mem_cons_of_mem _ listed))
        fun other listed => enough other (List.mem_cons_of_mem _ listed)
      exact .cons id inside beside

/-- The traversal of a module is depth first. -/
theorem Forest.depthFirst (forest : module.Forest) :
    module.DepthFirst module.topLevel module.typesInOrder := by
  refine forest.depthFirst_subtree _ (fun id listed => ?_) fun id _ => Nat.le_add_left _ _
  exact mem_typeIds.1 (forest.types.placed.subset (List.mem_append_left _ listed))

theorem Walk.after_add (module : Module) (first second : Nat) (walk : Walk) :
    after module (first + second) walk = after module second (after module first walk) := by
  induction first generalizing walk with
  | zero => rw [Nat.zero_add, after]
  | succ first ih => rw [Nat.succ_add, after, ih, after]

/-- A walk with a stack comes to types in depth first order, and then to what is further down. -/
theorem DepthFirst.after_walk (traversed : module.DepthFirst ids order)
    (reached rest : List TypeId) :
    Walk.after module order.length ⟨reached, ids ++ rest⟩ = ⟨reached ++ order, rest⟩ := by
  induction traversed generalizing reached rest with
  | nil => rw [List.length_nil, Walk.after, List.nil_append, List.append_nil]
  | @cons inner siblings outer id inside beside ihInside ihBeside =>
    rw [List.length_cons, Walk.after, List.length_append, Walk.after_add]
    have first : Walk.next module ⟨reached, id :: siblings ++ rest⟩ =
        ⟨reached ++ [id], module.nestedIn id ++ (siblings ++ rest)⟩ := rfl
    rw [first, ihInside, ihBeside]
    simp

/-- A traversal comes to the types where it begins and to those nested in types it comes to. -/
theorem DepthFirst.perm (traversed : module.DepthFirst ids order) :
    order.Perm (ids ++ order.flatMap module.nestedIn) := by
  induction traversed with
  | nil => exact .refl _
  | @cons inner siblings outer id _ _ inside beside =>
    rw [List.cons_append, List.flatMap_cons, List.flatMap_append, ← List.append_assoc (nestedIn _ _)]
    refine .cons id (.trans (inside.append beside) ?_)
    exact List.perm_append_comm_assoc _ _ _

/-- Two collections of types with the same types at the top, each of which holds besides just what is
nested in its own, are the same. Every type counts as often in both as the types before it make it
count. -/
theorem perm_of_nested {first second top : List TypeId} {nested : TypeId → List TypeId}
    (deeper : ∀ id, ∀ inner ∈ nested id, id.index < inner.index)
    (closed : first.Perm (top ++ first.flatMap nested))
    (alsoClosed : second.Perm (top ++ second.flatMap nested)) : first.Perm second := by
  have count_nested (id : TypeId) (list : List TypeId) : (list.flatMap nested).count id =
      ((list.filter fun other => other.index < id.index).flatMap nested).count id := by
    induction list with
    | nil => rfl
    | cons other rest ih =>
      rw [List.flatMap_cons, List.count_append, ih, List.filter_cons]
      split
      · rw [List.flatMap_cons, List.count_append]
      · next behind =>
        have absent : id ∉ nested other := fun present => behind (by
          simpa using deeper other id present)
        rw [List.count_eq_zero_of_not_mem absent, Nat.zero_add]
  rw [List.perm_iff_count]
  intro id
  induction bound : id.index using Nat.strongRecOn generalizing id with
  | ind index ih =>
    subst bound
    have before : (first.filter fun other => other.index < id.index).Perm
        (second.filter fun other => other.index < id.index) := by
      rw [List.perm_iff_count]
      intro other
      by_cases front : other.index < id.index
      · rw [List.count_filter (by simpa using front), List.count_filter (by simpa using front)]
        exact ih other.index front other rfl
      · rw [List.count_eq_zero_of_not_mem (by simp [front]),
          List.count_eq_zero_of_not_mem (by simp [front])]
    rw [closed.count_eq, alsoClosed.count_eq, List.count_append, List.count_append,
      count_nested id first, count_nested id second, (before.flatMap_right nested).count_eq]

private theorem flatMap_range (items : List α) (f : α → List ι) :
    ((List.range items.length).flatMap fun index => (items[index]?.map f).getD []) =
      items.flatMap f := by
  induction items with
  | nil => rfl
  | cons first rest ih =>
    rw [List.length_cons, List.range_succ_eq_map, List.flatMap_cons, List.flatMap_map,
      List.flatMap_cons, ← ih]
    rfl

/-- The traversal comes to every type exactly once. -/
theorem Forest.perm_of_depthFirst (forest : module.Forest)
    (traversed : module.DepthFirst module.topLevel order) : order.Perm module.typeIds := by
  refine perm_of_nested (fun id inner present => (forest.index_nestedIn present).1) traversed.perm ?_
  have whole : module.typeIds.flatMap module.nestedIn = module.types.flatMap TypeDef.nested := by
    rw [typeIds, List.flatMap_map]
    exact flatMap_range module.types TypeDef.nested
  rw [whole]
  exact forest.types.placed.symm

/-- With a stack that holds the types at the top, the walk comes to all types in their order, and has
then nowhere to go. -/
theorem Forest.after_walk (forest : module.Forest) :
    Walk.after module module.types.length ⟨[], module.topLevel⟩ = ⟨module.typesInOrder, []⟩ := by
  have all := (forest.perm_of_depthFirst forest.depthFirst).length_eq
  rw [typeIds, List.length_map, List.length_range] at all
  have walked := forest.depthFirst.after_walk [] []
  rwa [all, List.append_nil] at walked

def fieldsOf (module : Module) (id : TypeId) : List FieldId :=
  (module.types[id.index]?.map TypeDef.fields).getD []

def methodsOf (module : Module) (id : TypeId) : List MethodId :=
  (module.types[id.index]?.map TypeDef.methods).getD []

/-- A type, its fields and its methods. -/
def membersOf (module : Module) (id : TypeId) : List MemberId :=
  .type id :: ((module.fieldsOf id).map .field ++ (module.methodsOf id).map .method)

/-- All members of some types, type by type. -/
def membersAlong (module : Module) (order : List TypeId) : List MemberId :=
  order.flatMap module.membersOf

/-- All members, sort by sort. -/
def members (module : Module) : List MemberId :=
  module.typeIds.map .type ++ (module.fieldIds.map .field ++ module.methodIds.map .method)

/-- A traversal of the types comes to every method exactly once. -/
theorem Forest.perm_methodsAlong (forest : module.Forest) (all : order.Perm module.typeIds) :
    (order.flatMap module.methodsOf).Perm module.methodIds := by
  refine .trans (all.flatMap_right _) (.trans (.of_eq ?_) forest.methods)
  rw [typeIds, List.flatMap_map]
  exact flatMap_range module.types TypeDef.methods

/-- A traversal of the types comes to every member exactly once. -/
theorem Forest.perm_membersAlong (forest : module.Forest) (all : order.Perm module.typeIds) :
    (module.membersAlong order).Perm module.members := by
  have fields : (order.flatMap module.fieldsOf).Perm module.fieldIds := by
    refine .trans (all.flatMap_right _) (.trans (.of_eq ?_) forest.fields)
    rw [typeIds, List.flatMap_map]
    exact flatMap_range module.types TypeDef.fields
  have methods := forest.perm_methodsAlong all
  have split : (module.membersAlong order).Perm (order.map .type ++
      ((order.flatMap module.fieldsOf).map .field ++ (order.flatMap module.methodsOf).map .method)) := by
    rw [List.map_flatMap, List.map_flatMap]
    refine .symm (.trans (List.Perm.append_left _ (List.flatMap_append_perm order _ _)) ?_)
    exact List.map_append_flatMap_perm order _ _
  exact split.trans ((all.map _).append ((fields.map _).append (methods.map _)))

theorem mem_members {member : MemberId} {info : MemberInfo} (found : module.info member = .ok info) :
    member ∈ module.members := by
  rw [members, List.mem_append, List.mem_append]
  cases member with
  | type id =>
    refine .inl (List.mem_map_of_mem (mem_typeIds.2 ?_))
    by_contra absent
    simp [Module.info, typeAt, List.getElem?_eq_none (Nat.le_of_not_lt absent), Except.map] at found
  | field id =>
    refine .inr (.inl (List.mem_map_of_mem (List.mem_map.2 ⟨id.index, List.mem_range.2 ?_, rfl⟩)))
    by_contra absent
    simp [Module.info, fieldAt, List.getElem?_eq_none (Nat.le_of_not_lt absent), Except.map] at found
  | method id =>
    refine .inr (.inr (List.mem_map_of_mem (List.mem_map.2 ⟨id.index, List.mem_range.2 ?_, rfl⟩)))
    by_contra absent
    simp [Module.info, methodAt, List.getElem?_eq_none (Nat.le_of_not_lt absent), Except.map] at found

theorem nodup_methodIds (module : Module) : module.methodIds.Nodup :=
  List.nodup_range.map fun _ _ same => by cases same; rfl

theorem nodup_members (module : Module) : module.members.Nodup := by
  have types : (module.typeIds.map MemberId.type).Nodup :=
    (List.nodup_range.map fun _ _ same => by cases same; rfl).map fun _ _ same => by cases same; rfl
  have fields : (module.fieldIds.map MemberId.field).Nodup :=
    (List.nodup_range.map fun _ _ same => by cases same; rfl).map fun _ _ same => by cases same; rfl
  have methods : (module.methodIds.map MemberId.method).Nodup :=
    module.nodup_methodIds.map fun _ _ same => by cases same; rfl
  rw [members, List.nodup_append, List.nodup_append]
  refine ⟨types, ⟨fields, methods, by simp⟩, ?_⟩
  rintro member listed _ found rfl
  obtain ⟨id, _, rfl⟩ := List.mem_map.1 listed
  simp at found

end Retrofit.Module
