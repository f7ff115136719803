import Mathlib

/-!
# Singly linked lists

Elements with a pointer to the next one, and a pointer to the first that is kept by whoever owns the
list. A link is where such a pointer is stored, so the same code can change all of them.
-/

namespace LinkedList

variable {α : Type*} {next : α → Option α} {p : α → Bool} {q : Option α} {a b : α} {l l₁ l₂ : List α}

/-- The elements from a pointer on. -/
inductive Chain (next : α → Option α) : Option α → List α → Prop
  | nil : Chain next none []
  | cons {a : α} {l : List α} (h : Chain next (next a) l) : Chain next (some a) (a :: l)

/-- Where a pointer to an element is stored. -/
inductive Link (α : Type*)
  | head
  | next (a : α)
  deriving DecidableEq

/-- The first element with a property, with so much fuel for the loop. -/
def find (next : α → Option α) (p : α → Bool) : Nat → Option α → Option (Option α)
  | 0, _ => none
  | _ + 1, none => some none
  | fuel + 1, some a => if p a then some (some a) else find next p fuel (next a)

/-- The same with the link to the element, or else the last link. -/
def findLink (next : α → Option α) (p : α → Bool) : Nat → Link α → Option α → Option (Link α × Option α)
  | 0, _, _ => none
  | _ + 1, link, none => some (link, none)
  | fuel + 1, link, some a =>
    if p a then some (link, some a) else findLink next p fuel (.next a) (next a)

/-- The link behind the last of these elements. -/
def linkBehind (link : Link α) (l : List α) : Link α := l.getLast?.elim link .next

lemma linkBehind_cons (link : Link α) (a : α) (l : List α) :
    linkBehind link (a :: l) = linkBehind (.next a) l := by
  rw [linkBehind, linkBehind, List.getLast?_cons]
  cases l.getLast? <;> rfl

/-! ### Chains -/

lemma Chain.unique (h : Chain next q l) (h' : Chain next q l₁) : l = l₁ := by
  induction h generalizing l₁ with
  | nil =>
    cases h'
    rfl
  | cons _ ih =>
    cases h' with
    | cons h' => rw [ih h']

lemma Chain.first (h : Chain next q (a :: l)) : q = some a := by
  cases h
  rfl

lemma Chain.rest (h : Chain next q (a :: l)) : Chain next (next a) l := by
  cases h with
  | cons h => exact h

lemma Chain.suffix (h : Chain next q (l₁ ++ a :: l₂)) : Chain next (some a) (a :: l₂) := by
  induction l₁ generalizing q with
  | nil =>
    cases h with
    | cons h => exact .cons h
  | cons b l₁ ih =>
    cases h with
    | cons h => exact ih h

/-- A list that ends does not come back to an element. -/
lemma Chain.nodup (h : Chain next q l) : l.Nodup := by
  induction h with
  | nil => exact List.nodup_nil
  | @cons a l h ih =>
    refine List.nodup_cons.2 ⟨fun hmem => ?_, ih⟩
    obtain ⟨l₁, l₂, rfl⟩ := List.append_of_mem hmem
    have hsame := (Chain.cons h).unique h.suffix
    have hlength := congrArg List.length hsame
    rw [List.length_cons, List.length_append, List.length_cons] at hlength
    omega

/-- A list only depends on the pointers of its elements. -/
lemma Chain.congr {next' : α → Option α} (h : Chain next q l) (hsame : ∀ a ∈ l, next' a = next a) :
    Chain next' q l := by
  induction h with
  | nil => exact .nil
  | @cons a l h ih =>
    refine .cons ?_
    rw [hsame a List.mem_cons_self]
    exact ih fun b hb => hsame b (List.mem_cons_of_mem a hb)

lemma Chain.find_eq (h : Chain next q l) (p : α → Bool) {fuel : Nat} (hfuel : l.length < fuel) :
    find next p fuel q = some (l.find? p) := by
  induction h generalizing fuel with
  | nil =>
    obtain ⟨fuel, rfl⟩ := Nat.exists_eq_succ_of_ne_zero (Nat.ne_zero_of_lt hfuel)
    rfl
  | @cons a l h ih =>
    obtain ⟨fuel, rfl⟩ := Nat.exists_eq_succ_of_ne_zero (Nat.ne_zero_of_lt hfuel)
    rw [find, List.find?_cons]
    cases p a with
    | true => rfl
    | false => exact ih (Nat.lt_of_succ_lt_succ hfuel)

lemma Chain.findLink_eq (h : Chain next q (l₁ ++ a :: l₂)) (hp : p a = true) (hbefore : ∀ b ∈ l₁, p b = false)
    {fuel : Nat} (hfuel : (l₁ ++ a :: l₂).length < fuel) (link : Link α) :
    findLink next p fuel link q = some (linkBehind link l₁, some a) := by
  induction l₁ generalizing q fuel link with
  | nil =>
    obtain ⟨fuel, rfl⟩ := Nat.exists_eq_succ_of_ne_zero (Nat.ne_zero_of_lt hfuel)
    cases h
    rw [findLink, if_pos hp]
    rfl
  | cons b l₁ ih =>
    obtain ⟨fuel, rfl⟩ := Nat.exists_eq_succ_of_ne_zero (Nat.ne_zero_of_lt hfuel)
    cases h with
    | cons h =>
      have hb : p b = false := hbefore b List.mem_cons_self
      rw [findLink, hb, linkBehind_cons]
      exact ih h (fun c hc => hbefore c (List.mem_cons_of_mem b hc)) (Nat.lt_of_succ_lt_succ hfuel) (.next b)

/-! ### Changing links -/

/-- All pointers of a list. -/
structure Links (α : Type*) where
  head : Option α
  next : α → Option α

namespace Links

variable {c : Links α}

def get (c : Links α) : Link α → Option α
  | .head => c.head
  | .next a => c.next a

/-- The link behind a part of the list points to the rest. -/
lemma get_linkBehind (h : Chain c.next c.head (l₁ ++ a :: l₂)) : c.get (linkBehind .head l₁) = some a := by
  rcases List.eq_nil_or_concat l₁ with rfl | ⟨l, b, rfl⟩
  · exact h.first
  · rw [List.concat_eq_append, List.append_assoc] at h
    rw [List.concat_eq_append, linkBehind, List.getLast?_concat]
    exact h.suffix.rest.first

variable [DecidableEq α]

def set (c : Links α) (target : Option α) : Link α → Links α
  | .head => { c with head := target }
  | .next a => { c with next := Function.update c.next a target }

lemma chain_update (h : Chain next q (l₁ ++ b :: a :: l₂)) :
    Chain (Function.update next b (next a)) q (l₁ ++ b :: l₂) := by
  have hnodup := h.nodup
  induction l₁ generalizing q with
  | nil =>
    obtain rfl := h.first
    refine .cons ?_
    rw [Function.update_self]
    refine h.rest.rest.congr fun d hd => Function.update_of_ne ?_ _ _
    rintro rfl
    exact (List.nodup_cons.1 hnodup).1 (List.mem_cons_of_mem a hd)
  | cons d l₁ ih =>
    obtain rfl := h.first
    obtain ⟨hfirst, hrest⟩ := List.nodup_cons.1 hnodup
    have hne : d ≠ b := by
      rintro rfl
      exact hfirst (List.mem_append_right _ List.mem_cons_self)
    refine .cons ?_
    rw [Function.update_of_ne hne]
    exact ih h.rest hrest

/-- An element is taken out of the list by the link to it. -/
theorem unlink (h : Chain c.next c.head (l₁ ++ a :: l₂)) :
    Chain (c.set (c.next a) (linkBehind .head l₁)).next (c.set (c.next a) (linkBehind .head l₁)).head
      (l₁ ++ l₂) := by
  rcases List.eq_nil_or_concat l₁ with rfl | ⟨l, b, rfl⟩
  · exact h.rest
  · rw [List.concat_eq_append, List.append_assoc] at h ⊢
    rw [linkBehind, List.getLast?_concat]
    exact chain_update h

end Links

end LinkedList
