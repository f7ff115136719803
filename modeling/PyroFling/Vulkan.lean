import PyroFling.Library.LinkedList

/-!
# Vulkan

What the layers share: results, and structures that are chained by their `pNext`, with `findChain` of
`layer-util/dispatch_helper.hpp`.
-/

namespace PyroFling
open LinkedList

abbrev VkResult := Int

namespace VkResult

def success : VkResult := 0
def notReady : VkResult := 1
def timeout : VkResult := 2
def suboptimal : VkResult := 1000001003
def errorDeviceLost : VkResult := -4
def errorSurfaceLost : VkResult := -1000000000
def errorOutOfDate : VkResult := -1000001004

end VkResult

/-- A pointer is an address or null. -/
abbrev Address := BitVec 64

/-- A structure of a chain. Those that the layers look into begin with a count and an array. -/
structure ChainStructure where
  sType : BitVec 32
  pNext : Option Address
  count : BitVec 32 := 0
  array : Address := 0
  rest : List UInt8 := []
  deriving DecidableEq

/-- The memory of an application as far as a layer sees it. -/
structure AppMemory where
  structures : Address → ChainStructure
  arrays : Address → Nat → BitVec 64 := fun _ _ => 0

namespace AppMemory

def next (m : AppMemory) (a : Address) : Option Address := (m.structures a).pNext

def hasType (m : AppMemory) (sType : BitVec 32) (a : Address) : Bool := (m.structures a).sType == sType

/-- `findChain`. -/
def findChain (m : AppMemory) (fuel : Nat) (pNext : Option Address) (sType : BitVec 32) :
    Option (Option Address) :=
  find m.next (m.hasType sType) fuel pNext

def write (m : AppMemory) (a : Address) (structure' : ChainStructure) : AppMemory :=
  { m with structures := Function.update m.structures a structure' }

end AppMemory

namespace StructureType

def swapchainPresentModesCreateInfo : BitVec 32 := 1000275002
def swapchainPresentModeInfo : BitVec 32 := 1000275003
def presentId : BitVec 32 := 1000294000
def presentId2 : BitVec 32 := 1000479001

end StructureType

end PyroFling
