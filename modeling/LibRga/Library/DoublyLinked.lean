import Mathlib.Data.List.Nodup
import Mathlib.Logic.Function.Basic

/-!
Doubly linked lists in a heap of nodes, with pointers to both ends.

A null pointer is `none`, and touching a node that is not live fails. A chain is
linked as a list of nodes when each of them holds its own neighbours; a change
at one position is then a change to the part before it and one to the part after.
-/

namespace LibRga.DoublyLinked

structure Node (ν δ : Type) where
  prev : Option ν
  next : Option ν
  data : δ

structure Chain (ν δ : Type) where
  heap : ν → Option (Node ν δ)
  head : Option ν
  tail : Option ν

variable {ν δ : Type}

namespace Chain

variable [DecidableEq ν]

def write (chain : Chain ν δ) (address : ν) (cell : Option (Node ν δ)) : Chain ν δ :=
  { chain with heap := Function.update chain.heap address cell }

@[simp] theorem write_head (chain : Chain ν δ) (address : ν) (cell : Option (Node ν δ)) :
    (chain.write address cell).head = chain.head :=
  rfl

@[simp] theorem write_tail (chain : Chain ν δ) (address : ν) (cell : Option (Node ν δ)) :
    (chain.write address cell).tail = chain.tail :=
  rfl

@[simp] theorem write_same (chain : Chain ν δ) (address : ν) (cell : Option (Node ν δ)) :
    (chain.write address cell).heap address = cell := by
  simp [write]

theorem write_other (chain : Chain ν δ) {address other : ν} (cell : Option (Node ν δ))
    (differs : other ≠ address) : (chain.write address cell).heap other = chain.heap other := by
  simp [write, differs]

/-- A live address is not handed out a second time. -/
def alloc (chain : Chain ν δ) (address : ν) (node : Node ν δ) : Option (Chain ν δ) :=
  match chain.heap address with
  | none => some (chain.write address (some node))
  | some _ => none

def free (chain : Chain ν δ) (address : ν) : Option (Chain ν δ) :=
  (chain.heap address).map fun _ => chain.write address none

def setNext (chain : Chain ν δ) (address : ν) (link : Option ν) : Option (Chain ν δ) :=
  (chain.heap address).map fun node => chain.write address (some { node with next := link })

def setPrev (chain : Chain ν δ) (address : ν) (link : Option ν) : Option (Chain ν δ) :=
  (chain.heap address).map fun node => chain.write address (some { node with prev := link })

/-- What leads on from `before`: its own link, or the head where there is no node before. -/
def linkNext (chain : Chain ν δ) (before link : Option ν) : Option (Chain ν δ) :=
  match before with
  | some address => chain.setNext address link
  | none => some { chain with head := link }

def linkPrev (chain : Chain ν δ) (after link : Option ν) : Option (Chain ν δ) :=
  match after with
  | some address => chain.setPrev address link
  | none => some { chain with tail := link }

end Chain

abbrev addresses (nodes : List (ν × δ)) : List ν := nodes.map Prod.fst

def entry : List (ν × δ) → Option ν → Option ν
  | [], after => after
  | (address, _) :: _, _ => some address

def exit : Option ν → List (ν × δ) → Option ν
  | before, [] => before
  | _, (address, _) :: rest => exit (some address) rest

/-- The nodes lie in the heap one after the other, between `before` and `after`. -/
def Segment (heap : ν → Option (Node ν δ)) : Option ν → List (ν × δ) → Option ν → Prop
  | _, [], _ => True
  | before, (address, data) :: rest, after =>
      heap address = some ⟨before, entry rest after, data⟩ ∧ Segment heap (some address) rest after

variable {heap : ν → Option (Node ν δ)}

@[simp] theorem entry_cons (node : ν × δ) (rest : List (ν × δ)) (after : Option ν) :
    entry (node :: rest) after = some node.1 :=
  rfl

@[simp] theorem entry_append (nodes rest : List (ν × δ)) (after : Option ν) :
    entry (nodes ++ rest) after = entry nodes (entry rest after) := by
  cases nodes <;> rfl

@[simp] theorem exit_append (before : Option ν) (nodes rest : List (ν × δ)) :
    exit before (nodes ++ rest) = exit (exit before nodes) rest := by
  induction nodes generalizing before with
  | nil => rfl
  | cons node nodes ih => exact ih (some node.1)

theorem segment_append {before after : Option ν} {nodes rest : List (ν × δ)} :
    Segment heap before (nodes ++ rest) after ↔
      Segment heap before nodes (entry rest after) ∧
        Segment heap (exit before nodes) rest after := by
  induction nodes generalizing before with
  | nil => simp [Segment, exit]
  | cons node nodes ih => simp [Segment, exit, ih, and_assoc]

theorem Segment.frame {changed : ν → Option (Node ν δ)} {before after : Option ν}
    {nodes : List (ν × δ)} (segment : Segment heap before nodes after)
    (same : ∀ address ∈ addresses nodes, changed address = heap address) :
    Segment changed before nodes after := by
  induction nodes generalizing before with
  | nil => trivial
  | cons node nodes ih =>
      constructor
      · rw [same node.1 (by simp)]
        exact segment.1
      · exact ih segment.2 fun address inside => same address (List.mem_cons_of_mem _ inside)

theorem Segment.live {before after : Option ν} {nodes : List (ν × δ)}
    (segment : Segment heap before nodes after) {address : ν}
    (inside : address ∈ addresses nodes) : heap address ≠ none := by
  induction nodes generalizing before with
  | nil => simp at inside
  | cons node nodes ih =>
      rcases List.mem_cons.mp inside with rfl | later
      · simp [segment.1]
      · exact ih segment.2 later

/-- Following `link` from a pointer visits these nodes and comes to a null pointer. -/
inductive Walk (link : Node ν δ → Option ν) (heap : ν → Option (Node ν δ)) :
    Option ν → List (ν × δ) → Prop
  | done : Walk link heap none []
  | visit {address : ν} {node : Node ν δ} {rest : List (ν × δ)} : heap address = some node →
      Walk link heap (link node) rest → Walk link heap (some address) ((address, node.data) :: rest)

theorem Segment.forward {before : Option ν} {nodes : List (ν × δ)}
    (segment : Segment heap before nodes none) : Walk Node.next heap (entry nodes none) nodes := by
  induction nodes generalizing before with
  | nil => exact Walk.done
  | cons node nodes ih => exact Walk.visit segment.1 (ih segment.2)

theorem Segment.backward {before after : Option ν} {nodes visited : List (ν × δ)}
    (segment : Segment heap before nodes after) (walk : Walk Node.prev heap before visited) :
    Walk Node.prev heap (exit before nodes) (nodes.reverse ++ visited) := by
  induction nodes generalizing before visited with
  | nil => exact walk
  | cons node nodes ih =>
      rw [List.reverse_cons, List.append_assoc]
      exact ih segment.2 (Walk.visit segment.1 walk)

/-- The part of a chain up to the pointer `after`. -/
structure Leads (chain : Chain ν δ) (nodes : List (ν × δ)) (after : Option ν) : Prop where
  head : chain.head = entry nodes after
  segment : Segment chain.heap none nodes after

/-- The part of a chain that points back to `before`. -/
structure Trails (chain : Chain ν δ) (before : Option ν) (nodes : List (ν × δ)) : Prop where
  tail : chain.tail = exit before nodes
  segment : Segment chain.heap before nodes none

/-- Only the cells of `touched` changed, and none of them came or went. -/
structure Relinked (chain after : Chain ν δ) (touched : List ν) : Prop where
  same : ∀ address ∉ touched, after.heap address = chain.heap address
  live : ∀ address, after.heap address = none ↔ chain.heap address = none

theorem Leads.frame {chain after : Chain ν δ} {nodes : List (ν × δ)} {link : Option ν}
    (leads : Leads chain nodes link) (head : after.head = chain.head)
    (same : ∀ address ∈ addresses nodes, after.heap address = chain.heap address) :
    Leads after nodes link :=
  ⟨head.trans leads.head, leads.segment.frame same⟩

theorem Trails.frame {chain after : Chain ν δ} {nodes : List (ν × δ)} {link : Option ν}
    (trails : Trails chain link nodes) (tail : after.tail = chain.tail)
    (same : ∀ address ∈ addresses nodes, after.heap address = chain.heap address) :
    Trails after link nodes :=
  ⟨tail.trans trails.tail, trails.segment.frame same⟩

section Relink

variable [DecidableEq ν] {chain : Chain ν δ} {nodes : List (ν × δ)} {before after : Option ν}

theorem relinked_write {address : ν} {node changed : Node ν δ} {touched : List ν}
    (cell : chain.heap address = some node) (inside : address ∈ touched) :
    Relinked chain (chain.write address (some changed)) touched := by
  constructor
  · intro other outside
    exact chain.write_other _ fun same => outside (same ▸ inside)
  · intro other
    by_cases same : other = address
    · subst other
      simp [cell]
    · rw [chain.write_other _ same]

theorem Leads.linkNext (leads : Leads chain nodes after) (distinct : (addresses nodes).Nodup)
    (link : Option ν) :
    ∃ linked, chain.linkNext (exit none nodes) link = some linked ∧ Leads linked nodes link ∧
      linked.tail = chain.tail ∧ Relinked chain linked (addresses nodes) := by
  rcases List.eq_nil_or_concat nodes with rfl | ⟨earlier, ⟨address, data⟩, rfl⟩
  · exact ⟨_, rfl, ⟨rfl, trivial⟩, rfl, fun _ _ => rfl, fun _ => Iff.rfl⟩
  · rw [List.concat_eq_append] at *
    obtain ⟨front, cell, -⟩ := segment_append.mp leads.segment
    have apart : address ∉ addresses earlier := by
      simp only [addresses, List.map_append, List.nodup_append] at distinct
      exact fun inside => distinct.2.2 address inside address (by simp) rfl
    refine ⟨chain.write address (some ⟨exit none earlier, link, data⟩), ?_, ⟨?_, ?_⟩, rfl, ?_⟩
    · simp [Chain.linkNext, Chain.setNext, exit, cell]
    · rw [Chain.write_head, leads.head, entry_append, entry_append]
      rfl
    · refine segment_append.mpr ⟨front.frame ?_, by simp [entry], trivial⟩
      intro other inside
      exact chain.write_other _ fun same => apart (same ▸ inside)
    · exact relinked_write cell (by simp)

theorem Trails.linkPrev (trails : Trails chain before nodes) (distinct : (addresses nodes).Nodup)
    (link : Option ν) :
    ∃ linked, chain.linkPrev (entry nodes none) link = some linked ∧ Trails linked link nodes ∧
      linked.head = chain.head ∧ Relinked chain linked (addresses nodes) := by
  cases nodes with
  | nil => exact ⟨_, rfl, ⟨rfl, trivial⟩, rfl, fun _ _ => rfl, fun _ => Iff.rfl⟩
  | cons node later =>
      obtain ⟨address, data⟩ := node
      obtain ⟨cell, rest⟩ := trails.segment
      have apart : address ∉ addresses later := (List.nodup_cons.mp distinct).1
      refine ⟨chain.write address (some ⟨link, entry later none, data⟩), ?_, ⟨?_, ?_⟩, rfl, ?_⟩
      · simp [Chain.linkPrev, Chain.setPrev, entry, cell]
      · exact trails.tail
      · refine ⟨by simp, rest.frame ?_⟩
        intro other inside
        exact chain.write_other _ fun same => apart (same ▸ inside)
      · exact relinked_write cell (by simp)

end Relink

/-- The chain consists of these nodes, and no other node of the heap is live. -/
structure Linked (chain : Chain ν δ) (nodes : List (ν × δ)) : Prop where
  leads : Leads chain nodes none
  tail : chain.tail = exit none nodes
  distinct : (addresses nodes).Nodup
  owned : ∀ address, chain.heap address ≠ none → address ∈ addresses nodes

namespace Linked

variable {chain : Chain ν δ} {nodes : List (ν × δ)}

theorem forward (linked : Linked chain nodes) : Walk Node.next chain.heap chain.head nodes := by
  rw [linked.leads.head]
  exact linked.leads.segment.forward

theorem backward (linked : Linked chain nodes) :
    Walk Node.prev chain.heap chain.tail nodes.reverse := by
  have walk := linked.leads.segment.backward Walk.done
  rwa [List.append_nil, ← linked.tail] at walk

theorem dead_outside (linked : Linked chain nodes) {address : ν}
    (dead : chain.heap address = none) : address ∉ addresses nodes :=
  fun inside => linked.leads.segment.live inside dead

theorem empty (linked : Linked chain []) : chain = ⟨fun _ => none, none, none⟩ := by
  have dead : chain.heap = fun _ => none := by
    funext address
    by_contra live
    simpa using linked.owned address live
  obtain ⟨heap, head, tail⟩ := chain
  simp only [Chain.mk.injEq]
  exact ⟨dead, linked.leads.head, linked.tail⟩

theorem nil : Linked (⟨fun _ => none, none, none⟩ : Chain ν δ) [] :=
  ⟨⟨rfl, trivial⟩, rfl, List.nodup_nil, fun _ live => absurd rfl live⟩

/-- The two parts of a chain around any position. -/
theorem join {before later : List (ν × δ)} (leads : Leads chain before (entry later none))
    (trails : Trails chain (exit none before) later)
    (distinct : (addresses (before ++ later)).Nodup)
    (owned : ∀ address, chain.heap address ≠ none → address ∈ addresses (before ++ later)) :
    Linked chain (before ++ later) where
  leads := ⟨by rw [entry_append]; exact leads.head,
    segment_append.mpr ⟨leads.segment, trails.segment⟩⟩
  tail := by rw [exit_append]; exact trails.tail
  distinct := distinct
  owned := owned

variable [DecidableEq ν]

/-- A node behind the last one: the former last node leads on to it, and so does the tail. -/
theorem append (linked : Linked chain nodes) {address : ν} (fresh : chain.heap address = none)
    (data : δ) :
    ∃ written after, chain.alloc address ⟨chain.tail, none, data⟩ = some written ∧
      written.linkNext chain.tail (some address) = some after ∧
      Linked { after with tail := some address } (nodes ++ [(address, data)]) := by
  have outside := linked.dead_outside fresh
  have others : ∀ other ∈ addresses nodes,
      (chain.write address (some ⟨chain.tail, none, data⟩)).heap other = chain.heap other := by
    intro other inside
    exact chain.write_other _ fun same => outside (same ▸ inside)
  have leads := linked.leads.frame
    (chain.write_head address (some ⟨chain.tail, none, data⟩)) others
  obtain ⟨after, linkedOn, reaches, -, relinked⟩ := leads.linkNext linked.distinct (some address)
  refine ⟨chain.write address (some ⟨chain.tail, none, data⟩), after, ?_, ?_, ?_⟩
  · rw [Chain.alloc, fresh]
  · rwa [← linked.tail] at linkedOn
  · apply join
    · exact ⟨reaches.head, reaches.segment⟩
    · refine ⟨rfl, ?_, trivial⟩
      rw [relinked.same address outside, Chain.write_same, linked.tail]
      rfl
    · simp only [addresses, List.map_append, List.map_cons, List.map_nil] at outside ⊢
      exact List.nodup_append.mpr ⟨linked.distinct, List.nodup_singleton _, by
        intro left inside right last same
        simp only [List.mem_singleton] at last
        exact outside (last ▸ same ▸ inside)⟩
    · intro other live
      by_cases same : other = address
      · simp [same]
      · have lived : chain.heap other ≠ none := by
          rw [← chain.write_other (some ⟨chain.tail, none, data⟩) same]
          exact mt (relinked.live other).mpr live
        rw [addresses, List.map_append]
        exact List.mem_append_left _ (linked.owned other lived)

theorem join_freed {before later : List (ν × δ)} {address : ν}
    (leads : Leads chain before (entry later none)) (trails : Trails chain (exit none before) later)
    (outside : address ∉ addresses (before ++ later))
    (distinct : (addresses (before ++ later)).Nodup)
    (owned : ∀ other, other ≠ address → chain.heap other ≠ none →
      other ∈ addresses (before ++ later)) :
    Linked (chain.write address none) (before ++ later) := by
  have elsewhere : ∀ other, other ≠ address →
      (chain.write address none).heap other = chain.heap other :=
    fun other differs => chain.write_other none differs
  rw [addresses, List.map_append, List.mem_append, not_or] at outside
  apply join
  · exact leads.frame rfl fun other inside => elsewhere other fun same => outside.1 (same ▸ inside)
  · exact trails.frame rfl fun other inside => elsewhere other fun same => outside.2 (same ▸ inside)
  · exact distinct
  · intro other live
    have differs : other ≠ address := by
      rintro rfl
      simp at live
    rw [elsewhere other differs] at live
    exact owned other differs live

/-- A node goes from any position: its neighbours, or the ends, are linked past it. -/
theorem unlink {before later : List (ν × δ)} {address : ν} {data : δ}
    (linked : Linked chain (before ++ (address, data) :: later)) :
    chain.heap address = some ⟨exit none before, entry later none, data⟩ ∧
    ∃ ahead behind freed, chain.linkNext (exit none before) (entry later none) = some ahead ∧
      ahead.heap address = chain.heap address ∧
      ahead.linkPrev (entry later none) (exit none before) = some behind ∧
      behind.free address = some freed ∧ Linked freed (before ++ later) := by
  obtain ⟨front, cell, back⟩ := segment_append.mp linked.leads.segment
  have distinct := linked.distinct
  rw [addresses, List.map_append, List.map_cons, List.nodup_middle, ← List.map_append,
    List.nodup_cons] at distinct
  obtain ⟨outside, apart⟩ := distinct
  obtain ⟨distinctBefore, distinctLater, disjoint⟩ :=
    List.nodup_append.mp (List.map_append ▸ apart)
  have sides : address ∉ addresses before ∧ address ∉ addresses later := by
    rwa [List.map_append, List.mem_append, not_or] at outside
  have leads : Leads chain before (some address) :=
    ⟨by rw [linked.leads.head, entry_append]; rfl, front⟩
  have trails : Trails chain (some address) later :=
    ⟨by rw [linked.tail, exit_append]; rfl, back⟩
  obtain ⟨ahead, linkedOn, aheadLeads, aheadTail, aheadRelinked⟩ :=
    leads.linkNext distinctBefore (entry later none)
  have aheadTrails : Trails ahead (some address) later :=
    trails.frame aheadTail fun other late =>
      aheadRelinked.same other fun early => disjoint other early other late rfl
  obtain ⟨behind, linkedBack, behindTrails, behindHead, behindRelinked⟩ :=
    aheadTrails.linkPrev distinctLater (exit none before)
  have behindLeads : Leads behind before (entry later none) :=
    aheadLeads.frame behindHead fun other early =>
      behindRelinked.same other fun late => disjoint other early other late rfl
  have kept : ahead.heap address = chain.heap address := aheadRelinked.same address sides.1
  have remains : behind.heap address = chain.heap address :=
    (behindRelinked.same address sides.2).trans kept
  refine ⟨cell, ahead, behind, behind.write address none, linkedOn, kept, linkedBack, ?_, ?_⟩
  · rw [Chain.free, remains, cell]
    rfl
  · refine join_freed behindLeads behindTrails outside apart fun other differs live => ?_
    have lived : chain.heap other ≠ none :=
      mt (fun dead => (behindRelinked.live other).mpr ((aheadRelinked.live other).mpr dead)) live
    have inside := linked.owned other lived
    simp only [addresses, List.map_append, List.map_cons, List.mem_append,
      List.mem_cons] at inside ⊢
    exact inside.imp_right fun late => late.resolve_left differs

end Linked

end LibRga.DoublyLinked
