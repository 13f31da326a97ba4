import Retrofit.Proofs.Module.Members

/-!
The attribute words of methods. Splitting one into its groups and putting it together again keeps the
bits that a group declares and drops all others (`MethodFlags.bits_ofBits`). And the flags of the
methods of a module, which no edit of names, requests or bodies touches.
-/

namespace Retrofit

namespace MethodFlags

/-- The bits that belong to a group. -/
def declared : UInt32 := accessMask ||| newSlot ||| modifierMask

def unmanagedExport : UInt32 := 0x8

def platformInvoke : UInt32 := 0x2000

def hasSecurity : UInt32 := 0x4000

def requiresSecurityObject : UInt32 := 0x8000

/-- The attributes of methods that belong to no group. -/
def undeclared : UInt32 :=
  unmanagedExport ||| platformInvoke ||| hasSecurity ||| requiresSecurityObject

/-- A word whose bits are all attributes of methods. -/
def IsAttributeWord (word : UInt32) : Prop := word &&& (declared ||| undeclared) = word

/-- The bits that a method has which implements an interface: virtual, sealed, and with a slot of its
own. -/
def implementation : UInt32 := virtual ||| sealed ||| newSlot

private theorem and_or (word first second : UInt32) :
    word &&& (first ||| second) = word &&& first ||| word &&& second :=
  UInt32.toBitVec_inj.1 (BitVec.and_or_distrib_left ..)

private theorem or_and (first second mask : UInt32) :
    (first ||| second) &&& mask = first &&& mask ||| second &&& mask := by
  rw [UInt32.and_comm, and_or, UInt32.and_comm mask, UInt32.and_comm mask]

theorem bits_ofBits (word : UInt32) : (ofBits word).bits = word &&& declared := by
  rw [bits, ofBits, declared, and_or, and_or]

theorem declared_and_undeclared (word : UInt32) : word &&& declared &&& undeclared = 0 := by
  have apart : declared &&& undeclared = 0 := by decide
  rw [UInt32.and_assoc, apart, UInt32.and_zero]

namespace IsAttributeWord

variable {word : UInt32} (attributes : IsAttributeWord word)

include attributes

/-- Nothing gets lost exactly if all attributes belong to a group. -/
theorem bits_eq_iff : (ofBits word).bits = word ↔ word &&& undeclared = 0 := by
  rw [bits_ofBits]
  constructor
  · intro kept
    rw [← kept, declared_and_undeclared]
  · intro unlost
    calc word &&& declared = word &&& declared ||| word &&& undeclared := by
          rw [unlost, UInt32.or_zero]
      _ = word := by rw [← and_or, attributes]

/-- The bits of an implementation do not make up for what is lost. -/
theorem bits_or_eq_iff : (ofBits word).bits ||| implementation = word ||| implementation ↔
    word &&& undeclared = 0 := by
  have apart : implementation &&& undeclared = 0 := by decide
  constructor
  · -- the mask of what belongs to no group takes away the bits of an implementation on both sides
    intro kept
    have lost := congrArg (· &&& undeclared) kept
    rw [or_and, or_and, apart, UInt32.or_zero, UInt32.or_zero, bits_ofBits,
      declared_and_undeclared] at lost
    exact lost.symm
  · intro unlost
    rw [attributes.bits_eq_iff.2 unlost]

end IsAttributeWord

end MethodFlags

namespace Module

/-- The flags of a method. -/
def flagsOf? (module : Module) (id : MethodId) : Option MethodFlags :=
  module.methods[id.index]?.map MethodDef.flags

theorem flagsOf?_withMethod (module : Module) (changed id : MethodId)
    {change : MethodDef → MethodDef} {reflag : MethodFlags → MethodFlags}
    (changes : ∀ method, (change method).flags = reflag method.flags) :
    (module.withMethod changed change).flagsOf? id =
      (module.flagsOf? id).map fun flags => if changed = id then reflag flags else flags := by
  rw [flagsOf?, flagsOf?, withMethod, List.getElem?_modify]
  obtain ⟨index⟩ := id
  obtain ⟨changed⟩ := changed
  simp only [MethodId.mk.injEq]
  cases module.methods[index]? with
  | none => rfl
  | some method => by_cases same : changed = index <;> simp [same, changes]

theorem flagsOf?_withMethod_of_same (module : Module) (changed : MethodId)
    {change : MethodDef → MethodDef} (kept : ∀ method, (change method).flags = method.flags) :
    (module.withMethod changed change).flagsOf? = module.flagsOf? := by
  have unchanged : ∀ method, (change method).flags = id method.flags := kept
  funext other
  simp [module.flagsOf?_withMethod changed other unchanged]

theorem flagsOf?_changeInfo (module : Module) (member : MemberId)
    (change : MemberInfo → MemberInfo) :
    ((changeInfo member change).apply module).2.flagsOf? = module.flagsOf? := by
  cases member with
  | type id =>
    rw [changeInfo, apply_changeType]
    rfl
  | method id =>
    rw [changeInfo, apply_changeMethod]
    exact module.flagsOf?_withMethod_of_same id fun _ => rfl
  | field id =>
    rw [changeInfo, apply_changeField]
    rfl

theorem flagsOf?_editBody (module : Module) (id : MethodId) (edit : Edit Body Nat) :
    ((editBody id edit).apply module).2.flagsOf? = module.flagsOf? := by
  rw [apply_editBody]
  cases module.bodyOf? id with
  | none => rfl
  | some body => exact module.flagsOf?_withMethod_of_same id fun _ => rfl

end Module

end Retrofit
