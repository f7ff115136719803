import PyroFling.Messages
import PyroFling.Swapchain

/-!
# The view formats of an image group

The part of `Swapchain::handle_swapchain_create` in `pyrofling.cpp` that reads the list of view formats
in the message and hands it to Vulkan. What lies behind the list in memory is an input.
-/

namespace PyroFling

/-- The length of `vk_view_formats`. -/
def maxViewFormats : Nat := 15

/-- `Wire::ImageGroup`. The alignment of the last word adds no padding. -/
structure WireImageGroup where
  numImages : BitVec 32
  width : BitVec 32
  height : BitVec 32
  vkFormat : BitVec 32
  vkColorSpace : BitVec 32
  vkImageUsage : BitVec 32
  vkImageFlags : BitVec 32
  vkExternalMemoryType : BitVec 32
  vkNumViewFormats : BitVec 32
  vkViewFormats : List (BitVec 32)
  drmModifier : BitVec 64
  deriving DecidableEq

namespace WireImageGroup

def word (wire : List UInt8) (i : Nat) : BitVec 32 := BitVec.ofNat 32 (wordAt wire (4 * i) 4)

def ofBytes (wire : List UInt8) : WireImageGroup where
  numImages := word wire 0
  width := word wire 1
  height := word wire 2
  vkFormat := word wire 3
  vkColorSpace := word wire 4
  vkImageUsage := word wire 5
  vkImageFlags := word wire 6
  vkExternalMemoryType := word wire 7
  vkNumViewFormats := word wire 8
  vkViewFormats := (List.range maxViewFormats).map fun i => word wire (9 + i)
  drmModifier := BitVec.ofNat 64 (wordAt wire (4 * (9 + maxViewFormats)) 8)

/-- The group as the rest of the server sees it. -/
def toImageGroup (g : WireImageGroup) (serial : BitVec 64) (fds : Nat) : ImageGroup where
  serial := serial.toNat
  numImages := g.numImages.toNat
  width := g.width.toNat
  height := g.height.toNat
  vkColorSpace := g.vkColorSpace.toNat
  vkImageUsage := g.vkImageUsage
  vkExternalMemoryType := g.vkExternalMemoryType.toNat
  vkNumViewFormats := g.vkNumViewFormats.toNat
  fds := fds

end WireImageGroup

def formatR8G8B8A8Unorm : BitVec 32 := 37
def formatR8G8B8A8Srgb : BitVec 32 := 43
def formatB8G8R8A8Unorm : BitVec 32 := 44
def formatB8G8R8A8Srgb : BitVec 32 := 50

/-- The list as it is given to Vulkan, with the accesses to it. -/
structure FormatList where
  /-- The indices of `vk_view_formats` that are read, in order. -/
  reads : List Nat := []
  mutableSrgb : Bool := false
  /-- The `viewFormatCount` of each call of `create_image`, if there is a list. -/
  counts : List (Option Nat) := []
  deriving DecidableEq

namespace FormatList

/-- A view that only differs from the image in being sRGB or not. -/
def isMutableSrgb (view format : BitVec 32) : Bool :=
  (view = formatR8G8B8A8Unorm && format = formatR8G8B8A8Srgb) ||
    (view = formatB8G8R8A8Unorm && format = formatB8G8R8A8Srgb) ||
    (view = formatR8G8B8A8Srgb && format = formatR8G8B8A8Unorm) ||
    (view = formatB8G8R8A8Srgb && format = formatB8G8R8A8Unorm)

/-- The loop over the list from index `i` on, with `k` formats to go. -/
def readLoop (g : WireImageGroup) (behind : Nat → BitVec 32) : Nat → Nat → FormatList → FormatList
  | 0, _, l => l
  | k + 1, i, l =>
    let view := g.vkViewFormats.getD i (behind i)
    readLoop g behind k (i + 1) { l with
      reads := l.reads ++ [i]
      mutableSrgb := l.mutableSrgb || isMutableSrgb view g.vkFormat }

/-- The calls of `create_image`; one that fails is the last. -/
def createLoop (input : ImageGroupInput) (count : Option Nat) : List Nat → FormatList → FormatList
  | [], l => l
  | i :: is, l =>
    let l := { l with counts := l.counts ++ [count] }
    if input.created i then createLoop input count is l else l

end FormatList

/-- The checks before the list is looked at. -/
def ImageGroup.IsRefused (g : ImageGroup) (input : ImageGroupInput) : Prop :=
  g.numImages ≠ g.fds ∨ g.vkImageUsage &&& imageUsageSampledBit = 0 ∨
    g.vkImageUsage &&& imageUsageTransferSrcBit = 0 ∨
    g.vkExternalMemoryType ≠ input.opaqueMemoryHandleType ∨ g.vkColorSpace ∉ colorSpaces

instance (g : ImageGroup) (input : ImageGroupInput) : Decidable (g.IsRefused input) :=
  inferInstanceAs (Decidable (_ ∨ _ ∨ _ ∨ _ ∨ _))

/-- What `handle_swapchain_create` does with the list of a message. -/
def handleViewFormats (input : ImageGroupInput) (behind : Nat → BitVec 32) (m : Message) : FormatList :=
  let g := WireImageGroup.ofBytes m.wire
  let group := g.toImageGroup m.serial m.fds.length
  let count := g.vkNumViewFormats.toNat
  if group.IsRefused input then {}
  else if count = 0 ∧ input.formatIsSrgb then {}
  else
    let l := FormatList.readLoop g behind count 0 {}
    match input.maxExtent with
    | none => l
    | some (width, height) =>
      if width < group.width ∨ group.width = 0 ∨ height < group.height ∨ group.height = 0 then l
      else FormatList.createLoop input (if count = 0 then none else some count) (List.range group.numImages) l

end PyroFling
