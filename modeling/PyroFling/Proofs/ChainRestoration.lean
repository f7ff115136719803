import PyroFling.PresentChain

/-!
# Which calls leave the chain of the application alone

A call that gets to its end restores what it has changed. One that fails in between does not, except if
the link that it has changed is in its own copy of the info.
-/

namespace PyroFling
open LinkedList

namespace AppMemory

variable {m : AppMemory} {pNext target : Option Address} {a : Address} {link : LinkedList.Link Address}
  {l l₁ l₂ : List Address}

/-- A present mode that the layer does not pass on. -/
def IsMode (m : AppMemory) (a : Address) : Bool := m.hasType StructureType.swapchainPresentModeInfo a

def IsModes (m : AppMemory) (a : Address) : Bool :=
  m.hasType StructureType.swapchainPresentModesCreateInfo a

/-- The chain of an info consists of these structures. -/
def IsChain (m : AppMemory) (pNext : Option Address) (l : List Address) : Prop := Chain m.next pNext l

/-- These structures have the contents and links that they had. -/
def SameStructures (m m' : AppMemory) (l : List Address) : Prop :=
  ∀ a ∈ l, m'.structures a = m.structures a

/-- The chain is that of the application with the present mode removed, and has its contents. -/
structure WithoutMode (m : AppMemory) (l : List Address) (down : Option Address × AppMemory) : Prop where
  chain : down.2.IsChain down.1 (l.eraseP m.IsMode)
  contents : ∀ a ∈ l, { down.2.structures a with pNext := none } = { m.structures a with pNext := none }

lemma links_setLink (m : AppMemory) (pNext target : Option Address) (link : LinkedList.Link Address) :
    (m.setLink pNext target link).2.links (m.setLink pNext target link).1 =
      (m.links pNext).set target link := by
  cases link with
  | head => rfl
  | next a =>
    simp only [setLink, links, Links.set, Links.mk.injEq, true_and]
    funext b
    rcases eq_or_ne b a with rfl | hne
    · simp [AppMemory.next, write]
    · simp [AppMemory.next, write, hne]

lemma contents_setLink (m : AppMemory) (pNext target : Option Address) (link : LinkedList.Link Address) (b : Address) :
    { (m.setLink pNext target link).2.structures b with pNext := none } =
      { m.structures b with pNext := none } := by
  cases link with
  | head => rfl
  | next a =>
    rcases eq_or_ne b a with rfl | hne
    · simp [setLink, write]
    · simp [setLink, write, hne]

lemma setLink_setLink (target : Option Address) (h : (m.links pNext).get link = some a) :
    ((m.setLink pNext target link).2.setLink (m.setLink pNext target link).1 (some a) link).2 = m := by
  cases link with
  | head => rfl
  | next b =>
    have hnext : (m.structures b).pNext = some a := h
    have hsame : { m.structures b with pNext := some a } = m.structures b := by rw [← hnext]
    simp [setLink, write, hsame]

lemma structures_setLink_next {b : Address} (hnext : m.next b = some a) (hne : target ≠ some a) :
    (m.setLink pNext target (.next b)).2.structures b ≠ m.structures b := by
  intro hsame
  have hlink := congrArg ChainStructure.pNext hsame
  simp only [setLink, write, Function.update_self] at hlink
  exact hne (hlink.trans hnext)

/-- The chain without its present mode, after the link to it has been changed. -/
lemma withoutMode_setLink (h : m.IsChain pNext (l₁ ++ a :: l₂)) (hmode : m.IsMode a = true)
    (hbefore : ∀ b ∈ l₁, m.IsMode b = false) :
    WithoutMode m (l₁ ++ a :: l₂) (m.setLink pNext (m.next a) (linkBehind .head l₁)) := by
  constructor
  · have herase : (l₁ ++ a :: l₂).eraseP m.IsMode = l₁ ++ l₂ := by
      rw [List.eraseP_append_right]
      · rw [List.eraseP_cons_of_pos hmode]
      · intro b hb
        rw [hbefore b hb]
        exact Bool.false_ne_true
    have hunlink := Links.unlink (c := m.links pNext) h
    rw [← links_setLink] at hunlink
    rw [herase]
    exact hunlink
  · exact fun b _ => contents_setLink m pNext _ _ b

/-- A chain without a present mode is passed on as it is. -/
lemma withoutMode_self_iff (h : m.IsChain pNext l) :
    WithoutMode m l (pNext, m) ↔ ∀ a ∈ l, m.IsMode a = false := by
  have hself : WithoutMode m l (pNext, m) ↔ l.eraseP m.IsMode = l := by
    constructor
    · intro hwithout
      exact hwithout.chain.unique h
    · intro herase
      exact ⟨herase.symm ▸ h, fun _ _ => rfl⟩
  rw [hself, List.eraseP_eq_self_iff]
  simp only [Bool.not_eq_true]

end AppMemory

open AppMemory

lemma firstFailure_eq_none {results : Nat → VkResult} {count : Nat} :
    firstFailure results count = none ↔ ∀ i < count, results i = VkResult.success := by
  simp [firstFailure, List.find?_eq_none]

/-- The call has its effects on the structures undone, and passes on what it should. -/
def PresentOutcome.Restores (m : AppMemory) (l : List Address) (o : PresentOutcome) : Prop :=
  SameStructures m o.memory l ∧ ∀ down, o.passedDown = some down → WithoutMode m l down

namespace PresentResults

variable {results : PresentResults} {info : PresentInfo}

/-- A call fails after the chain has been changed and before it is restored. -/
def FailsBetween (results : PresentResults) (info : PresentInfo) : Prop :=
  (∃ i < info.swapchains.length, results.present i ≠ VkResult.success) ∨
    (info.waitSemaphores ≠ [] ∧ results.signal ≠ VkResult.success)

/-- The waits for the semaphores succeed. -/
def Waits (results : PresentResults) (info : PresentInfo) : Prop :=
  ∀ i < info.waitSemaphores.length, results.wait i = VkResult.success

variable {m : AppMemory} {pNext : Option Address} {call : Nat → PresentCall} {mode : Option Address}
  {link : Option (LinkedList.Link Address)}

/-- A failure leaves the chain as it is then. -/
lemma presentAll_restores_of_failure {m₀ : AppMemory} {l : List Address} (h : results.FailsBetween info) :
    (presentAll m pNext info results call mode link).Restores m₀ l ↔ SameStructures m₀ m l := by
  have hpresentAll : (presentAll m pNext info results call mode link).memory = m ∧
      (presentAll m pNext info results call mode link).passedDown = none := by
    rw [presentAll]
    cases hfirst : firstFailure results.present info.swapchains.length with
    | some i => exact ⟨rfl, rfl⟩
    | none =>
      have hsignal : info.waitSemaphores ≠ [] ∧ results.signal ≠ VkResult.success := by
        rcases h with ⟨i, hi, hfail⟩ | hsignal
        · exact absurd (firstFailure_eq_none.1 hfirst i hi) hfail
        · exact hsignal
      simp only [if_pos hsignal, and_self]
  rw [PresentOutcome.Restores, hpresentAll.1, hpresentAll.2]
  exact and_iff_left nofun

/-- Without one the next layer is called and the link restored. -/
lemma presentAll_restores_of_success {m₀ : AppMemory} {l : List Address} (h : ¬results.FailsBetween info) :
    (presentAll m pNext info results call mode link).Restores m₀ l ↔
      SameStructures m₀ (link.elim m fun link => (m.setLink pNext mode link).2) l ∧
        WithoutMode m₀ l (pNext, m) := by
  have hfirst : firstFailure results.present info.swapchains.length = none := by
    rw [firstFailure_eq_none]
    intro i hi
    by_contra hfail
    exact h (.inl ⟨i, hi, hfail⟩)
  rw [PresentOutcome.Restores, presentAll, hfirst]
  simp only [if_neg fun hsignal => h (.inr hsignal), Option.some.injEq, forall_eq']

end PresentResults

/-- The present mode is in the chain, and not at its head. -/
def AppMemory.ModeBehindHead (m : AppMemory) (l : List Address) : Prop :=
  ∃ a ∈ l.tail, m.IsMode a = true ∧ ∀ b ∈ l.head?, m.IsMode b = false

/-- When a present leaves the chain as it was and passes on what it should. -/
structure PresentResults.Harmless (results : PresentResults) (info : PresentInfo) (m : AppMemory)
    (l : List Address) : Prop where
  passes : results.requiresWrap = false → ∀ a ∈ l, m.IsMode a = false
  fails : results.requiresWrap = true → results.Waits info → results.FailsBetween info → ¬m.ModeBehindHead l

section Present

variable {m : AppMemory} {info : PresentInfo} {results : PresentResults} {l l₁ l₂ : List Address}
  {a : Address} {fuel : Nat}

lemma queuePresent_of_none (h : m.IsChain info.pNext l) (hfuel : l.length < fuel)
    (hwrap : results.requiresWrap = true) (hwaits : results.Waits info) (hnone : ∀ a ∈ l, m.IsMode a = false) :
    ∃ call, queuePresent fuel .server m info results =
      some (presentAll m info.pNext info results call none none) := by
  have hmode : l.find? (m.hasType StructureType.swapchainPresentModeInfo) = none := by
    rw [List.find?_eq_none]
    intro a ha
    exact Bool.not_eq_true _ ▸ hnone a ha
  refine ⟨presentCall m info (l.find? (m.hasType StructureType.presentId))
    (l.find? (m.hasType StructureType.presentId2)) none, ?_⟩
  rw [queuePresent, if_pos hwrap, firstFailure_eq_none.2 hwaits]
  simp only [findChain, Chain.find_eq h _ hfuel, hmode]
  rfl

lemma queuePresent_of_mode (h : m.IsChain info.pNext (l₁ ++ a :: l₂)) (hfuel : (l₁ ++ a :: l₂).length < fuel)
    (hwrap : results.requiresWrap = true) (hwaits : results.Waits info) (hmode : m.IsMode a = true)
    (hbefore : ∀ b ∈ l₁, m.IsMode b = false) :
    ∃ call, queuePresent fuel .server m info results =
      some (presentAll (m.setLink info.pNext (m.next a) (linkBehind .head l₁)).2
        (m.setLink info.pNext (m.next a) (linkBehind .head l₁)).1 info results call (some a)
        (some (linkBehind .head l₁))) := by
  have hfirst : (l₁ ++ a :: l₂).find? (m.hasType StructureType.swapchainPresentModeInfo) = some a := by
    rw [List.find?_eq_some_iff_append]
    refine ⟨hmode, l₁, l₂, rfl, fun b hb => ?_⟩
    rw [Bool.not_eq_true']
    exact hbefore b hb
  have hlink : findLink m.next (m.hasType StructureType.swapchainPresentModeInfo) fuel .head info.pNext =
      some (linkBehind .head l₁, some a) := Chain.findLink_eq h hmode hbefore hfuel .head
  refine ⟨presentCall m info ((l₁ ++ a :: l₂).find? (m.hasType StructureType.presentId))
    ((l₁ ++ a :: l₂).find? (m.hasType StructureType.presentId2)) (some a), ?_⟩
  rw [queuePresent, if_pos hwrap, firstFailure_eq_none.2 hwaits]
  simp only [findChain, Chain.find_eq h _ hfuel, hfirst, hlink]
  rfl

/-- With the present mode behind the head, the changed link is one of the application. -/
lemma not_sameStructures_setLink (h : m.IsChain info.pNext (l₁ ++ a :: l₂)) (hne : l₁ ≠ []) :
    ¬SameStructures m (m.setLink info.pNext (m.next a) (linkBehind .head l₁)).2 (l₁ ++ a :: l₂) := by
  obtain ⟨l, b, rfl⟩ := (List.eq_nil_or_concat l₁).resolve_left hne
  intro hsame
  rw [List.concat_eq_append] at h hsame
  rw [linkBehind, List.getLast?_concat] at hsame
  have hrest := h
  rw [List.append_assoc] at hrest
  have hnext : m.next b = some a := (Chain.suffix hrest).rest.first
  have hloop : m.next a ≠ some a := by
    intro hloop
    have hsuffix := (Chain.suffix h).rest
    rw [hloop] at hsuffix
    have hlength := congrArg List.length (hsuffix.unique (Chain.suffix h))
    rw [List.length_cons] at hlength
    omega
  exact structures_setLink_next hnext hloop
    (hsame b (List.mem_append_left _ (List.mem_append_right _ List.mem_cons_self)))

lemma modeBehindHead_iff (hmode : m.IsMode a = true) (hbefore : ∀ b ∈ l₁, m.IsMode b = false) :
    m.ModeBehindHead (l₁ ++ a :: l₂) ↔ l₁ ≠ [] := by
  cases l₁ with
  | nil =>
    refine iff_of_false ?_ (fun hne => hne rfl)
    rintro ⟨-, -, -, hhead⟩
    exact absurd (hhead a rfl) (by rw [hmode]; decide)
  | cons b l₁ =>
    refine iff_of_true ⟨a, List.mem_append_right _ List.mem_cons_self, hmode, ?_⟩ (List.cons_ne_nil b l₁)
    rintro c ⟨⟩
    exact hbefore b List.mem_cons_self

/-- A wrapped present restores the chain unless it fails in between with a link of the application
changed. -/
lemma queuePresent_wrapped_iff (h : m.IsChain info.pNext l) (hfuel : l.length < fuel)
    (hwrap : results.requiresWrap = true) :
    (∃ o, queuePresent fuel .server m info results = some o ∧ o.Restores m l) ↔
      (results.Waits info → results.FailsBetween info → ¬m.ModeBehindHead l) := by
  by_cases hwaits : results.Waits info
  swap
  · obtain ⟨i, hi⟩ : ∃ i, firstFailure results.wait info.waitSemaphores.length = some i := by
      rw [← Option.isSome_iff_exists, ← Option.ne_none_iff_isSome]
      exact fun hnone => hwaits (firstFailure_eq_none.1 hnone)
    refine iff_of_true ⟨{ result := results.wait i, memory := m }, ?_, fun _ _ => rfl, nofun⟩
      fun h' => absurd h' hwaits
    rw [queuePresent, if_pos hwrap, hi]
  rw [forall_prop_of_true hwaits]
  by_cases hnone : ∀ a ∈ l, m.IsMode a = false
  · obtain ⟨call, hcall⟩ := queuePresent_of_none h hfuel hwrap hwaits hnone
    refine iff_of_true ⟨_, hcall, ?_⟩ fun _ ⟨a, ha, hmode, _⟩ => ?_
    · by_cases hfails : results.FailsBetween info
      · exact (PresentResults.presentAll_restores_of_failure hfails).2 fun _ _ => rfl
      · exact (PresentResults.presentAll_restores_of_success hfails).2
          ⟨fun _ _ => rfl, (withoutMode_self_iff h).2 hnone⟩
    · rw [hnone a (List.mem_of_mem_tail ha)] at hmode
      exact Bool.false_ne_true hmode
  · obtain ⟨a, hfirst⟩ : ∃ a, l.find? m.IsMode = some a := by
      rw [← Option.isSome_iff_exists, List.find?_isSome]
      push Not at hnone
      obtain ⟨a, ha, hmode⟩ := hnone
      exact ⟨a, ha, Bool.of_not_eq_false hmode⟩
    obtain ⟨hmode, l₁, l₂, rfl, hbefore⟩ := List.find?_eq_some_iff_append.1 hfirst
    simp only [Bool.not_eq_true'] at hbefore
    obtain ⟨call, hcall⟩ := queuePresent_of_mode h hfuel hwrap hwaits hmode hbefore
    have hwithout := withoutMode_setLink h hmode hbefore
    rw [hcall, modeBehindHead_iff hmode hbefore, not_not]
    simp only [Option.some.injEq, exists_eq_left']
    by_cases hfails : results.FailsBetween info
    · rw [PresentResults.presentAll_restores_of_failure hfails, forall_prop_of_true hfails]
      constructor
      · intro hsame
        by_contra hne
        exact not_sameStructures_setLink h hne hsame
      · rintro rfl
        exact fun _ _ => rfl
    · rw [PresentResults.presentAll_restores_of_success hfails]
      refine iff_of_true ⟨?_, hwithout⟩ fun hfails' => absurd hfails' hfails
      have hrestored := setLink_setLink (m.next a) (Links.get_linkBehind (c := m.links info.pNext) h)
      rw [Option.elim_some, hrestored]
      exact fun _ _ => rfl

/-- `QueuePresentKHR` restores the chain and passes it on without its present mode. -/
lemma queuePresent_restores_iff (h : m.IsChain info.pNext l) (hfuel : l.length < fuel) :
    (∃ o, queuePresent fuel .server m info results = some o ∧ o.Restores m l) ↔
      results.Harmless info m l := by
  cases hwrap : results.requiresWrap with
  | true =>
    rw [queuePresent_wrapped_iff h hfuel hwrap]
    exact ⟨fun hfails => ⟨fun hnot => absurd (hwrap.symm.trans hnot) (by decide), fun _ => hfails⟩,
      fun hharmless => hharmless.fails hwrap⟩
  | false =>
    have hpasses : queuePresent fuel .server m info results =
        some { result := results.queuePresent, memory := m, passedDown := some (info.pNext, m) } := by
      rw [queuePresent, hwrap]
      rfl
    rw [hpasses]
    simp only [Option.some.injEq, exists_eq_left', PresentOutcome.Restores, forall_eq',
      withoutMode_self_iff h]
    exact ⟨fun hpass => ⟨fun _ => hpass.2, fun hnot => absurd (hwrap.symm.trans hnot) (by decide)⟩,
      fun hharmless => ⟨fun _ _ => rfl, hharmless.passes hwrap⟩⟩

end Present

section Create

variable {m : AppMemory} {l : List Address} {fuel : Nat} {presentMode : Address}
  {pCreateInfo : SwapchainCreateInfo} {results : CreateResults}

/-- The structure asks for this one present mode already. -/
def AppMemory.AsksForMode (m : AppMemory) (presentMode a : Address) : Prop :=
  (m.structures a).count = 1 ∧ (m.structures a).array = presentMode

/-- When `CreateSwapchainKHR` leaves the chain as it was. -/
def CreateResults.Harmless (results : CreateResults) (m : AppMemory) (presentMode : Address)
    (l : List Address) : Prop :=
  results.createSwapchain = VkResult.success ∨ ∀ a, l.find? m.IsModes = some a → m.AsksForMode presentMode a

lemma createSwapchain_restores_iff (h : m.IsChain pCreateInfo.pNext l) (hfuel : l.length < fuel) :
    (∃ o, createSwapchain fuel .server m presentMode pCreateInfo results = some o ∧
      SameStructures m o.memory l) ↔ results.Harmless m presentMode l := by
  have hfind : m.findChain fuel pCreateInfo.pNext StructureType.swapchainPresentModesCreateInfo =
      some (l.find? m.IsModes) := Chain.find_eq h _ hfuel
  rw [createSwapchain]
  simp only [if_true, hfind, Option.bind_eq_bind, Option.bind_some, Option.some.injEq, exists_eq_left']
  rw [CreateResults.Harmless]
  cases hmodes : l.find? m.IsModes with
  | none =>
    simp only [Option.elim_none, ite_self]
    exact iff_of_true (fun _ _ => rfl) (.inr nofun)
  | some a =>
    simp only [Option.elim_some]
    by_cases hsuccess : results.createSwapchain = VkResult.success
    · rw [if_neg (not_not.2 hsuccess)]
      refine iff_of_true (fun b _ => ?_) (.inl hsuccess)
      simp [write]
    · rw [if_pos hsuccess, or_iff_right hsuccess]
      constructor
      · rintro hsame _ ⟨⟩
        have hself := hsame a (List.mem_of_find?_eq_some hmodes)
        simp only [write, Function.update_self] at hself
        exact ⟨(congrArg ChainStructure.count hself).symm, (congrArg ChainStructure.array hself).symm⟩
      · intro hasks b _
        obtain ⟨hcount, harray⟩ := hasks a rfl
        rw [write, ← hcount, ← harray]
        exact congrFun (Function.update_eq_self a m.structures) b

end Create

/-- If the server decides when frames are shown, `QueuePresentKHR` leaves every structure of the chain as it
was, and passes the chain on without its present mode, if and only if the present is harmless; and
`CreateSwapchainKHR` leaves them as they were if and only if the creation is. -/
theorem chain_restored_iff {m : AppMemory} {info : PresentInfo} {pCreateInfo : SwapchainCreateInfo}
    {l l' : List Address} (h : m.IsChain info.pNext l) (h' : m.IsChain pCreateInfo.pNext l') {fuel : Nat}
    (hfuel : l.length < fuel) (hfuel' : l'.length < fuel) (results : PresentResults)
    (createResults : CreateResults) (presentMode : Address) :
    ((∃ o, queuePresent fuel .server m info results = some o ∧ o.Restores m l) ↔
      results.Harmless info m l) ∧
    ((∃ o, createSwapchain fuel .server m presentMode pCreateInfo createResults = some o ∧
      SameStructures m o.memory l') ↔ createResults.Harmless m presentMode l') :=
  ⟨queuePresent_restores_iff h hfuel, createSwapchain_restores_iff h' hfuel'⟩

/-- A chain of a present id at the address 16 and a present mode at 32, and one of the present modes of a
swapchain at 48. -/
def twoChains : AppMemory where
  structures a :=
    if a = 16 then { sType := StructureType.presentId, pNext := some 32, count := 1, array := 64 }
    else if a = 32 then { sType := StructureType.swapchainPresentModeInfo, pNext := none, count := 1, array := 80 }
    else { sType := StructureType.swapchainPresentModesCreateInfo, pNext := none, count := 2, array := 96 }

/-- The info of a present with one swapchain and one semaphore. -/
def oneSwapchain : PresentInfo := { pNext := some 16, waitSemaphores := [1], swapchains := [1] }

def twoModes : SwapchainCreateInfo := { pNext := some 48 }

/-- If nothing fails, both chains are restored. -/
theorem chain_restored_twoChains :
    (∃ o, queuePresent 3 .server twoChains oneSwapchain {} = some o ∧ o.Restores twoChains [16, 32]) ∧
    (∃ o, createSwapchain 3 .server twoChains 128 twoModes {} = some o ∧
      SameStructures twoChains o.memory [48]) := by
  have hpresent : twoChains.IsChain oneSwapchain.pNext [16, 32] := .cons (.cons .nil)
  have hcreate : twoChains.IsChain twoModes.pNext [48] := .cons .nil
  have hfuel : [(16 : Address), 32].length < 3 := by decide
  have hfuel' : [(48 : Address)].length < 3 := by decide
  have hrestored := chain_restored_iff hpresent hcreate hfuel hfuel' {} {} 128
  refine ⟨hrestored.1.2 ⟨nofun, fun _ _ hfails => ?_⟩, hrestored.2.2 (.inl rfl)⟩
  rcases hfails with ⟨i, -, hfail⟩ | ⟨-, hfail⟩
  · exact absurd rfl hfail
  · exact absurd rfl hfail

/-- If a surface fails, the present id is left without the link to the present mode, and if the creation
fails, the present modes are left with the layer's own. -/
theorem failed_calls_leave_changes :
    ((queuePresent 3 .server twoChains oneSwapchain { present := fun _ => VkResult.errorDeviceLost }).map fun o =>
      (o.memory.structures 16).pNext) = some none ∧
    ((createSwapchain 3 .server twoChains 128 twoModes
      { createSwapchain := VkResult.errorDeviceLost }).map fun o =>
        ((o.memory.structures 48).count, (o.memory.structures 48).array)) = some (1, 128) := by
  decide +kernel

end PyroFling
