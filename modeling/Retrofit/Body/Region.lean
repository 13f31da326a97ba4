import Retrofit.Error

/-!
Exception regions: a protected block with its handler, tied to instructions by identity.
-/

namespace Retrofit

/-- A protected block, its handler and, for a filter, the block that decides. A block goes up to but
not including its end; without an end it goes to the end of the method. -/
structure Region where
  flags : UInt16 := 2
  tryStart : InstrId
  tryEnd : Option InstrId
  handlerStart : InstrId
  handlerEnd : Option InstrId
  filterStart : Option InstrId := none
  catchType : Option String := none
deriving DecidableEq

namespace Region

/-- The flags that have a meaning: filter, finally and fault. -/
def knownFlags : UInt16 := 7

/-- Which boundaries of the region lie at the instruction. -/
def boundsAt (region : Region) (id : InstrId) : List Boundary :=
  [(.tryStart, some region.tryStart), (.tryEnd, region.tryEnd),
   (.handlerStart, some region.handlerStart), (.handlerEnd, region.handlerEnd),
   (.filterStart, region.filterStart)].filterMap
    fun (boundary, anchor) => if anchor = some id then some boundary else none

/-- Whether a block of the region begins at the instruction. -/
def startsAt (region : Region) (id : InstrId) : Bool :=
  region.tryStart = id || region.handlerStart = id || region.filterStart = some id

/-- The region with the boundaries at one instruction moved to another. Only ends can move behind
the last instruction. -/
def moved (region : Region) (source : InstrId) (target : Option InstrId) : Region :=
  let start (id : InstrId) : InstrId := if id = source then target.getD id else id
  let stop (id : Option InstrId) : Option InstrId := if id = some source then target else id
  { region with
    tryStart := start region.tryStart
    tryEnd := stop region.tryEnd
    handlerStart := start region.handlerStart
    handlerEnd := stop region.handlerEnd
    filterStart := region.filterStart.map start }

end Region
end Retrofit
