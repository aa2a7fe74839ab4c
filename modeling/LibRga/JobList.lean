import LibRga.JobInvariant
import LibRga.Library.DoublyLinked
import Mathlib.Data.Finmap

/-!
The doubly linked job map of `im2d_job.cpp`, its branch where `IM2D_JOB_USE_MAP`
is false, against the other branch and against a finite map.

`malloc` answers with a block, and the code takes it to succeed. A loop is given
fuel; its call fails when the fuel runs out, as it does at a null or dead pointer.
-/

namespace LibRga.JobList

open DoublyLinked

abbrev NodePtr := UInt64

structure RgaMapNodeData where
  key : UInt64
  value : JobPtr
deriving DecidableEq, Repr

/-- A `rga_map_list_t` with the nodes it lives among. -/
abbrev RgaMapList := Chain NodePtr RgaMapNodeData

def rgaMapInsertTail (jobMap : RgaMapList) (block : NodePtr) (data : RgaMapNodeData) :
    Option RgaMapList := do
  let jobMap ← jobMap.alloc block { prev := jobMap.tail, next := none, data := data }
  let jobMap ←
    match jobMap.tail with
    | none => some { jobMap with head := some block }
    | some tail => jobMap.setNext tail (some block)
  some { jobMap with tail := some block }

def rgaMapDelete (jobMap : RgaMapList) (node : Option NodePtr) : Option RgaMapList :=
  match node with
  | none => some jobMap
  | some node => do
      let fields ← jobMap.heap node
      let jobMap ←
        match fields.prev with
        | some prev => jobMap.setNext prev fields.next
        | none => some { jobMap with head := fields.next }
      -- `node` is read again: the store above may have gone to it
      let fields ← jobMap.heap node
      let jobMap ←
        match fields.next with
        | some next => jobMap.setPrev next fields.prev
        | none => some { jobMap with tail := fields.prev }
      jobMap.free node

/-- The loop of `rga_map_find`, from `curr` on. -/
def rgaMapFindFrom (jobMap : RgaMapList) (key : UInt64) :
    Nat → Option NodePtr → Option (Option NodePtr)
  | _, none => some none
  | 0, some _ => none
  | fuel + 1, some curr => do
      let node ← jobMap.heap curr
      if node.data.key = key then some (some curr) else rgaMapFindFrom jobMap key fuel node.next

def rgaMapFind (jobMap : RgaMapList) (fuel : Nat) (key : UInt64) : Option (Option NodePtr) :=
  rgaMapFindFrom jobMap key fuel jobMap.head

def rgaMapListDeatroy : Nat → RgaMapList → Option RgaMapList
  | 0, jobMap =>
      match jobMap.head with
      | none => some jobMap
      | some _ => none
  | fuel + 1, jobMap =>
      match jobMap.head with
      | none => some jobMap
      | some head => do rgaMapListDeatroy fuel (← rgaMapDelete jobMap (some head))

def rgaMapListInit (jobMap : RgaMapList) : RgaMapList :=
  { jobMap with head := none, tail := none }

/-- The flag is whether the handle is reported to exist. -/
def rgaMapInsertJob (jobMap : RgaMapList) (block : NodePtr) (fuel : Nat) (handle : UInt32)
    (job : JobPtr) : Option (RgaMapList × Bool) := do
  let data : RgaMapNodeData := { key := handle.toUInt64, value := job }
  match ← rgaMapFind jobMap fuel data.key with
  | some _ => some (jobMap, true)
  | none => return (← rgaMapInsertTail jobMap block data, false)

def rgaMapDeleteJob (jobMap : RgaMapList) (fuel : Nat) (handle : UInt32) : Option RgaMapList := do
  match ← rgaMapFind jobMap fuel handle.toUInt64 with
  | some node => rgaMapDelete jobMap (some node)
  | none => some jobMap

/-- A null job is 0. -/
def rgaMapFindJob (jobMap : RgaMapList) (fuel : Nat) (handle : UInt32) : Option JobPtr := do
  match ← rgaMapFind jobMap fuel handle.toUInt64 with
  | some node => return (← jobMap.heap node).data.value
  | none => some 0

inductive MapCall where
  | insertJob (handle : UInt32) (job : JobPtr)
  | deleteJob (handle : UInt32)
  | findJob (handle : UInt32)
  | deatroy
deriving DecidableEq, Repr

/-- What the caller sees of a call. -/
inductive MapEvent where
  | inserted (handle : UInt32) (job : JobPtr) (present : Bool)
  | deleted (handle : UInt32)
  | found (handle : UInt32) (job : JobPtr)
  | deatroyed
deriving DecidableEq, Repr

structure ListOp where
  call : MapCall
  block : NodePtr
  fuel : Nat

def listStep (jobMap : RgaMapList) (op : ListOp) : Option (RgaMapList × MapEvent) :=
  match op.call with
  | .insertJob handle job => do
      let (after, present) ← rgaMapInsertJob jobMap op.block op.fuel handle job
      some (after, .inserted handle job present)
  | .deleteJob handle => do
      some (← rgaMapDeleteJob jobMap op.fuel handle, .deleted handle)
  | .findJob handle => do
      some (jobMap, .found handle (← rgaMapFindJob jobMap op.fuel handle))
  | .deatroy => do
      some (← rgaMapListDeatroy op.fuel jobMap, .deatroyed)

/-- The calls on the entries alone. There is no destroy function for a `std::map`. -/
def entriesStep (kind : JobMapKind) (jobMap : RgaJobMap) :
    MapCall → Option (RgaJobMap × MapEvent)
  | .insertJob handle job =>
      some (LibRga.rgaMapInsertJob kind jobMap handle job,
        .inserted handle job (LibRga.rgaMapFindJob jobMap handle).isSome)
  | .deleteJob handle => some (LibRga.rgaMapDeleteJob jobMap handle, .deleted handle)
  | .findJob handle =>
      some (jobMap, .found handle ((LibRga.rgaMapFindJob jobMap handle).getD 0))
  | .deatroy => some ([], .deatroyed)

abbrev FiniteJobMap := Finmap fun _ : UInt32 => JobPtr

/-- A finite map with insert if absent. -/
def finiteStep (jobs : FiniteJobMap) : MapCall → Option (FiniteJobMap × MapEvent)
  | .insertJob handle job =>
      some (if handle ∈ jobs then jobs else jobs.insert handle job,
        .inserted handle job (decide (handle ∈ jobs)))
  | .deleteJob handle => some (jobs.erase handle, .deleted handle)
  | .findJob handle => some (jobs, .found handle ((jobs.lookup handle).getD 0))
  | .deatroy => some (∅, .deatroyed)

section Nodes

variable {jobMap : RgaMapList} {nodes : List (NodePtr × RgaMapNodeData)}

theorem rgaMapInsertTail_eq (block : NodePtr) (data : RgaMapNodeData) :
    rgaMapInsertTail jobMap block data =
      (jobMap.alloc block ⟨jobMap.tail, none, data⟩).bind fun written =>
        (written.linkNext written.tail (some block)).bind fun after =>
          some { after with tail := some block } := by
  unfold rgaMapInsertTail Chain.linkNext
  refine Option.bind_congr fun written _ => ?_
  cases written.tail <;> rfl

theorem rgaMapDelete_eq (node : NodePtr) :
    rgaMapDelete jobMap (some node) =
      (jobMap.heap node).bind fun fields =>
        (jobMap.linkNext fields.prev fields.next).bind fun ahead =>
          (ahead.heap node).bind fun fields =>
            (ahead.linkPrev fields.next fields.prev).bind fun behind => behind.free node := by
  unfold rgaMapDelete Chain.linkNext Chain.linkPrev
  refine Option.bind_congr fun fields _ => ?_
  have onward : ∀ ahead : RgaMapList,
      (do
        let fields ← ahead.heap node
        let behind ←
          match fields.next with
          | some next => ahead.setPrev next fields.prev
          | none => some { ahead with tail := fields.prev }
        behind.free node) =
      (ahead.heap node).bind fun fields =>
        (ahead.linkPrev fields.next fields.prev).bind fun behind => behind.free node := by
    intro ahead
    refine Option.bind_congr fun fields _ => ?_
    unfold Chain.linkPrev
    cases fields.next <;> rfl
  cases fields.prev with
  | none => exact onward _
  | some prev => exact Option.bind_congr fun ahead _ => onward ahead

theorem rgaMapInsertTail_fresh {after : RgaMapList} {block : NodePtr} {data : RgaMapNodeData}
    (inserted : rgaMapInsertTail jobMap block data = some after) : jobMap.heap block = none := by
  cases cell : jobMap.heap block with
  | none => rfl
  | some node => simp [rgaMapInsertTail, Chain.alloc, cell] at inserted

theorem rgaMapInsertTail_linked (linked : Linked jobMap nodes) {block : NodePtr}
    (fresh : jobMap.heap block = none) (data : RgaMapNodeData) :
    ∃ after, rgaMapInsertTail jobMap block data = some after ∧
      Linked after (nodes ++ [(block, data)]) := by
  obtain ⟨written, after, allocated, linkedOn, appended⟩ := linked.append fresh data
  have tail : written.tail = jobMap.tail := by
    simp only [Chain.alloc, fresh, Option.some.injEq] at allocated
    rw [← allocated, Chain.write_tail]
  refine ⟨{ after with tail := some block }, ?_, appended⟩
  rw [rgaMapInsertTail_eq, allocated, Option.bind_some, tail, linkedOn, Option.bind_some]

theorem rgaMapDelete_linked {before later : List (NodePtr × RgaMapNodeData)} {node : NodePtr}
    {data : RgaMapNodeData} (linked : Linked jobMap (before ++ (node, data) :: later)) :
    ∃ after, rgaMapDelete jobMap (some node) = some after ∧ Linked after (before ++ later) := by
  obtain ⟨cell, ahead, behind, freed, linkedOn, kept, linkedBack, released, unlinked⟩ :=
    linked.unlink
  refine ⟨freed, ?_, unlinked⟩
  simp only [rgaMapDelete_eq, kept, cell, linkedOn, linkedBack, released, Option.bind_some]

theorem rgaMapFindFrom_segment {before : Option NodePtr} {key : UInt64} {fuel : Nat}
    (segment : Segment jobMap.heap before nodes none) (enough : nodes.length ≤ fuel) :
    rgaMapFindFrom jobMap key fuel (entry nodes none) =
      some ((nodes.find? fun node => node.2.key = key).map Prod.fst) := by
  induction nodes generalizing before fuel with
  | nil => cases fuel <;> rfl
  | cons node nodes ih =>
      obtain ⟨address, data⟩ := node
      obtain ⟨cell, rest⟩ := segment
      cases fuel with
      | zero => simp at enough
      | succ fuel =>
          simp only [List.length_cons, Nat.add_le_add_iff_right] at enough
          by_cases here : data.key = key
          · simp [rgaMapFindFrom, cell, here]
          · simp [rgaMapFindFrom, cell, here, ih rest enough]

theorem rgaMapFind_linked (linked : Linked jobMap nodes) (key : UInt64) {fuel : Nat}
    (enough : nodes.length ≤ fuel) :
    rgaMapFind jobMap fuel key =
      some ((nodes.find? fun node => node.2.key = key).map Prod.fst) := by
  rw [rgaMapFind, linked.leads.head]
  exact rgaMapFindFrom_segment linked.leads.segment enough

theorem rgaMapListDeatroy_linked (linked : Linked jobMap nodes) {fuel : Nat}
    (enough : nodes.length ≤ fuel) :
    rgaMapListDeatroy fuel jobMap = some ⟨fun _ => none, none, none⟩ := by
  induction nodes generalizing jobMap fuel with
  | nil =>
      rw [linked.empty]
      cases fuel <;> rfl
  | cons node nodes ih =>
      obtain ⟨address, data⟩ := node
      have head : jobMap.head = some address := linked.leads.head
      obtain ⟨after, deleted, remains⟩ := @rgaMapDelete_linked jobMap [] nodes address data linked
      cases fuel with
      | zero => simp at enough
      | succ fuel =>
          simp only [List.length_cons, Nat.add_le_add_iff_right] at enough
          simp only [rgaMapListDeatroy, head, deleted, Option.bind_eq_bind, Option.bind_some]
          exact ih remains enough

end Nodes

section Fuel

variable {jobMap : RgaMapList} {fuel more : Nat}

theorem rgaMapFindFrom_mono {key : UInt64} {curr found : Option NodePtr} (larger : fuel ≤ more)
    (ends : rgaMapFindFrom jobMap key fuel curr = some found) :
    rgaMapFindFrom jobMap key more curr = some found := by
  induction fuel generalizing curr more with
  | zero =>
      cases curr with
      | none => cases more <;> exact ends
      | some address => simp [rgaMapFindFrom] at ends
  | succ fuel ih =>
      obtain ⟨more, rfl⟩ := Nat.exists_eq_add_of_lt (Nat.lt_of_succ_le larger)
      cases curr with
      | none => exact ends
      | some address =>
          simp only [rgaMapFindFrom, Option.bind_eq_bind, Option.bind_eq_some_iff] at ends ⊢
          obtain ⟨node, cell, answered⟩ := ends
          refine ⟨node, cell, ?_⟩
          split at answered
          · rwa [if_pos ‹_›]
          · rw [if_neg ‹_›]
            exact ih (by omega) answered

theorem rgaMapListDeatroy_mono {after : RgaMapList} (larger : fuel ≤ more)
    (ends : rgaMapListDeatroy fuel jobMap = some after) :
    rgaMapListDeatroy more jobMap = some after := by
  induction fuel generalizing jobMap more with
  | zero =>
      cases head : jobMap.head with
      | none => cases more <;> simpa [rgaMapListDeatroy, head] using ends
      | some address => simp [rgaMapListDeatroy, head] at ends
  | succ fuel ih =>
      obtain ⟨more, rfl⟩ := Nat.exists_eq_add_of_lt (Nat.lt_of_succ_le larger)
      cases head : jobMap.head with
      | none => simpa [rgaMapListDeatroy, head] using ends
      | some address =>
          simp only [rgaMapListDeatroy, head, Option.bind_eq_bind,
            Option.bind_eq_some_iff] at ends ⊢
          obtain ⟨rest, deleted, emptied⟩ := ends
          exact ⟨rest, deleted, ih (by omega) emptied⟩

theorem listStep_mono {call : MapCall} {block : NodePtr} {result : RgaMapList × MapEvent}
    (larger : fuel ≤ more) (taken : listStep jobMap ⟨call, block, fuel⟩ = some result) :
    listStep jobMap ⟨call, block, more⟩ = some result := by
  have finds : ∀ key found, rgaMapFind jobMap fuel key = some found →
      rgaMapFind jobMap more key = some found :=
    fun key found ends => rgaMapFindFrom_mono larger ends
  cases call with
  | insertJob handle job =>
      simp only [listStep, rgaMapInsertJob, Option.bind_eq_bind, Option.bind_eq_some_iff] at taken ⊢
      obtain ⟨answer, ⟨found, ends, decided⟩, reported⟩ := taken
      exact ⟨answer, ⟨found, finds _ _ ends, decided⟩, reported⟩
  | deleteJob handle =>
      simp only [listStep, rgaMapDeleteJob, Option.bind_eq_bind, Option.bind_eq_some_iff] at taken ⊢
      obtain ⟨after, ⟨found, ends, decided⟩, reported⟩ := taken
      exact ⟨after, ⟨found, finds _ _ ends, decided⟩, reported⟩
  | findJob handle =>
      simp only [listStep, rgaMapFindJob, Option.bind_eq_bind, Option.bind_eq_some_iff] at taken ⊢
      obtain ⟨job, ⟨found, ends, decided⟩, reported⟩ := taken
      exact ⟨job, ⟨found, finds _ _ ends, decided⟩, reported⟩
  | deatroy =>
      simp only [listStep, Option.bind_eq_bind, Option.bind_eq_some_iff] at taken ⊢
      obtain ⟨after, ends, reported⟩ := taken
      exact ⟨after, rgaMapListDeatroy_mono larger ends, reported⟩

end Fuel

def nodeData (entry : Sigma fun _ : UInt32 => JobPtr) : RgaMapNodeData :=
  { key := entry.1.toUInt64, value := entry.2 }

/-- The list holds these entries in this order. -/
structure Represents (jobMap : RgaMapList) (nodes : List (NodePtr × RgaMapNodeData))
    (entries : RgaJobMap) : Prop where
  linked : Linked jobMap nodes
  stored : nodes.map Prod.snd = entries.map nodeData

section Entries

variable {jobMap : RgaMapList} {nodes : List (NodePtr × RgaMapNodeData)} {entries : RgaJobMap}

theorem find_absent {handle : UInt32} (stored : nodes.map Prod.snd = entries.map nodeData)
    (absent : handle ∉ entries.keys) :
    nodes.find? (fun node => node.2.key = handle.toUInt64) = none := by
  rw [List.find?_eq_none]
  intro node inside matched
  have held : node.2 ∈ entries.map nodeData := stored ▸ List.mem_map_of_mem inside
  obtain ⟨entry, present, same⟩ := List.mem_map.mp held
  simp only [← same, nodeData, decide_eq_true_eq, UInt32.toUInt64_inj] at matched
  exact absent (matched ▸ List.mem_keys_of_mem present)

/-- A handle is either not there, or at one node that can be taken out. -/
theorem Represents.locate (represents : Represents jobMap nodes entries) (handle : UInt32) :
    (LibRga.rgaMapFindJob entries handle = none ∧ LibRga.rgaMapDeleteJob entries handle = entries ∧
      ∀ fuel, nodes.length ≤ fuel → rgaMapFind jobMap fuel handle.toUInt64 = some none) ∨
    ∃ before later node job, nodes = before ++ (node, nodeData ⟨handle, job⟩) :: later ∧
      LibRga.rgaMapFindJob entries handle = some job ∧
      (before ++ later).map Prod.snd = (LibRga.rgaMapDeleteJob entries handle).map nodeData ∧
      ∀ fuel, nodes.length ≤ fuel → rgaMapFind jobMap fuel handle.toUInt64 = some (some node) := by
  by_cases present : handle ∈ entries.keys
  · right
    obtain ⟨job, front, back, notFront, split, erased⟩ := List.exists_of_kerase present
    have stored := represents.stored
    rw [split, List.map_append, List.map_cons, List.map_eq_append_iff] at stored
    obtain ⟨before, rest, parts, frontStored, restStored⟩ := stored
    obtain ⟨node, later, rfl, here, backStored⟩ := List.map_eq_cons_iff.mp restStored
    obtain ⟨address, data⟩ := node
    simp only at here
    subst here
    refine ⟨before, later, address, job, parts, ?_, ?_, ?_⟩
    · rw [LibRga.rgaMapFindJob, split, List.dlookup_append]
      simp [List.dlookup_eq_none.mpr notFront]
    · rw [LibRga.rgaMapDeleteJob, erased, List.map_append, List.map_append, frontStored, backStored]
    · intro fuel enough
      rw [rgaMapFind_linked represents.linked _ enough, parts, List.find?_append,
        find_absent frontStored notFront]
      simp [nodeData]
  · left
    refine ⟨List.dlookup_eq_none.mpr present, List.kerase_of_notMem_keys present, ?_⟩
    intro fuel enough
    rw [rgaMapFind_linked represents.linked _ enough, find_absent represents.stored present]
    rfl

variable {fuel : Nat} (handle : UInt32)

theorem rgaMapInsertJob_represents (represents : Represents jobMap nodes entries)
    (enough : nodes.length ≤ fuel) (job : JobPtr) {block : NodePtr}
    (fresh : LibRga.rgaMapFindJob entries handle = none → jobMap.heap block = none) :
    ∃ after held, rgaMapInsertJob jobMap block fuel handle job =
        some (after, (LibRga.rgaMapFindJob entries handle).isSome) ∧
      Represents after held (LibRga.rgaMapInsertJob .linkedList entries handle job) := by
  rcases represents.locate handle with
    ⟨absent, -, finds⟩ | ⟨before, later, node, held, parts, present, -, finds⟩
  · obtain ⟨after, appended, linked⟩ := rgaMapInsertTail_linked represents.linked (fresh absent)
      (nodeData ⟨handle, job⟩)
    refine ⟨after, nodes ++ [(block, nodeData ⟨handle, job⟩)], ?_, linked, ?_⟩
    · simp only [nodeData] at appended
      simp [rgaMapInsertJob, finds fuel enough, appended, absent]
    · rw [LibRga.rgaMapFindJob] at absent
      simp [LibRga.rgaMapInsertJob, absent, represents.stored]
  · refine ⟨jobMap, nodes, ?_, represents.linked, ?_⟩
    · simp [rgaMapInsertJob, finds fuel enough, present]
    · rw [LibRga.rgaMapFindJob] at present
      simp [LibRga.rgaMapInsertJob, present, represents.stored]

theorem rgaMapDeleteJob_represents (represents : Represents jobMap nodes entries)
    (enough : nodes.length ≤ fuel) :
    ∃ after held, rgaMapDeleteJob jobMap fuel handle = some after ∧
      Represents after held (LibRga.rgaMapDeleteJob entries handle) := by
  rcases represents.locate handle with
    ⟨-, unchanged, finds⟩ | ⟨before, later, node, job, parts, -, stored, finds⟩
  · refine ⟨jobMap, nodes, ?_, unchanged.symm ▸ represents⟩
    simp [rgaMapDeleteJob, finds fuel enough]
  · obtain ⟨after, deleted, linked⟩ := rgaMapDelete_linked (parts ▸ represents.linked)
    refine ⟨after, before ++ later, ?_, linked, stored⟩
    simp [rgaMapDeleteJob, finds fuel enough, deleted]

theorem rgaMapFindJob_represents (represents : Represents jobMap nodes entries)
    (enough : nodes.length ≤ fuel) :
    rgaMapFindJob jobMap fuel handle =
      some ((LibRga.rgaMapFindJob entries handle).getD 0) := by
  rcases represents.locate handle with
    ⟨absent, -, finds⟩ | ⟨before, later, node, job, parts, present, -, finds⟩
  · simp [rgaMapFindJob, finds fuel enough, absent]
  · obtain ⟨cell, -⟩ := (parts ▸ represents.linked).unlink
    simp [rgaMapFindJob, finds fuel enough, cell, present, nodeData]

theorem rgaMapInsertJob_fresh (represents : Represents jobMap nodes entries)
    (enough : nodes.length ≤ fuel) {block : NodePtr} {job : JobPtr} {result : RgaMapList × Bool}
    (inserted : rgaMapInsertJob jobMap block fuel handle job = some result)
    (absent : LibRga.rgaMapFindJob entries handle = none) : jobMap.heap block = none := by
  rcases represents.locate handle with
    ⟨-, -, finds⟩ | ⟨before, later, node, held, parts, present, -, -⟩
  · simp only [rgaMapInsertJob, finds fuel enough, Option.bind_eq_bind, Option.bind_some,
      Option.bind_eq_some_iff] at inserted
    obtain ⟨after, appended, -⟩ := inserted
    exact rgaMapInsertTail_fresh appended
  · simp [absent] at present

/-- With the fuel for one round a node, a call on the list does what it does on the entries. -/
theorem Represents.completes (represents : Represents jobMap nodes entries) (call : MapCall)
    (block : NodePtr) (enough : nodes.length ≤ fuel)
    (fresh : ∀ handle job, call = .insertJob handle job →
      LibRga.rgaMapFindJob entries handle = none → jobMap.heap block = none) :
    ∃ after event held kept, listStep jobMap ⟨call, block, fuel⟩ = some (after, event) ∧
      entriesStep .linkedList entries call = some (kept, event) ∧ Represents after held kept := by
  cases call with
  | insertJob handle job =>
      obtain ⟨after, held, inserted, kept⟩ :=
        rgaMapInsertJob_represents handle represents enough job (fresh handle job rfl)
      exact ⟨after, _, held, _, by simp only [listStep, inserted]; rfl, rfl, kept⟩
  | deleteJob handle =>
      obtain ⟨after, held, deleted, kept⟩ := rgaMapDeleteJob_represents handle represents enough
      exact ⟨after, _, held, _, by simp only [listStep, deleted]; rfl, rfl, kept⟩
  | findJob handle =>
      have found := rgaMapFindJob_represents handle represents enough
      exact ⟨jobMap, _, nodes, _, by simp only [listStep, found]; rfl, rfl, represents⟩
  | deatroy =>
      have emptied := rgaMapListDeatroy_linked represents.linked enough
      exact ⟨_, _, [], _, by simp only [listStep, emptied]; rfl, rfl, Linked.nil, rfl⟩

theorem Represents.simulated (represents : Represents jobMap nodes entries) {op : ListOp}
    {after : RgaMapList} {event : MapEvent} (taken : listStep jobMap op = some (after, event)) :
    ∃ kept, entriesStep .linkedList entries op.call = some (kept, event) ∧
      ∃ held, Represents after held kept := by
  obtain ⟨call, block, fuel⟩ := op
  have enough : nodes.length ≤ max fuel nodes.length := Nat.le_max_right _ _
  have longer := listStep_mono (Nat.le_max_left fuel nodes.length) taken
  have fresh : ∀ handle job, call = .insertJob handle job →
      LibRga.rgaMapFindJob entries handle = none → jobMap.heap block = none := by
    rintro handle job rfl absent
    simp only [listStep, Option.bind_eq_bind, Option.bind_eq_some_iff] at longer
    obtain ⟨result, inserted, -⟩ := longer
    exact rgaMapInsertJob_fresh handle represents enough inserted absent
  obtain ⟨final, reported, held, kept, completed, moved, represented⟩ :=
    represents.completes call block enough fresh
  obtain ⟨rfl, rfl⟩ := Prod.mk.inj (Option.some.inj (longer.symm.trans completed))
  exact ⟨kept, moved, held, represented⟩

end Entries

/-- The finite map has exactly these entries. -/
structure Holds (entries : RgaJobMap) (jobs : FiniteJobMap) : Prop where
  distinct : entries.NodupKeys
  same : jobs.entries = entries

section Finite

variable {entries : RgaJobMap} {jobs : FiniteJobMap}

theorem Holds.toFinmap (holds : Holds entries jobs) :
    jobs = AList.toFinmap ⟨entries, holds.distinct⟩ :=
  Finmap.ext holds.same

theorem Holds.lookup (holds : Holds entries jobs) (handle : UInt32) :
    jobs.lookup handle = LibRga.rgaMapFindJob entries handle := by
  rw [holds.toFinmap, Finmap.lookup_toFinmap]
  rfl

theorem Holds.mem (holds : Holds entries jobs) (handle : UInt32) :
    handle ∈ jobs ↔ (LibRga.rgaMapFindJob entries handle).isSome := by
  rw [← holds.lookup, Finmap.lookup_isSome]

/-- On either branch a call answers as it does on the finite map. -/
theorem Holds.step (kind : JobMapKind) (holds : Holds entries jobs) (call : MapCall) :
    ∃ event kept moved, entriesStep kind entries call = some (kept, event) ∧
      finiteStep jobs call = some (moved, event) ∧ Holds kept moved := by
  cases call with
  | insertJob handle job =>
      by_cases present : handle ∈ jobs
      · have found := (holds.mem handle).mp present
        have refused : LibRga.rgaMapInsertJob kind entries handle job = entries := if_pos found
        refine ⟨.inserted handle job true, entries, jobs, ?_, ?_, holds⟩
        · simp only [entriesStep, refused, found]
        · simp only [finiteStep, present, if_true, decide_true]
      · have absent : LibRga.rgaMapFindJob entries handle = none := by
          rwa [holds.mem, Option.not_isSome_iff_eq_none] at present
        refine ⟨.inserted handle job false, _, jobs.insert handle job, ?_, ?_,
          rgaMapInsertJob_nodupKeys kind job holds.distinct absent, ?_⟩
        · simp only [entriesStep, absent, Option.isSome_none]
        · simp only [finiteStep, present, if_false, decide_false]
        · rw [Finmap.entries_insert_of_notMem present, holds.same, Multiset.cons_coe]
          exact (Multiset.coe_eq_coe.mpr (rgaMapInsertJob_perm kind job absent)).symm
  | deleteJob handle =>
      refine ⟨_, _, _, rfl, rfl, List.NodupKeys.kerase _ holds.distinct, ?_⟩
      rw [holds.toFinmap, Finmap.erase_toFinmap]
      rfl
  | findJob handle =>
      refine ⟨_, _, _, rfl, ?_, holds⟩
      rw [← holds.lookup]
      rfl
  | deatroy => exact ⟨_, _, _, rfl, rfl, List.nodupKeys_nil, rfl⟩

end Finite

theorem listRun_simulated {head tail : Option NodePtr} {trace : List MapEvent} {jobMap : RgaMapList}
    (run : Machine.Run listStep (rgaMapListInit ⟨fun _ => none, head, tail⟩) trace jobMap) :
    ∃ entries, Machine.Run (entriesStep .linkedList) [] trace entries ∧
      ∃ nodes, Represents jobMap nodes entries := by
  refine run.simulated (R := fun jobMap entries => ∃ nodes, Represents jobMap nodes entries)
    ⟨[], Linked.nil, rfl⟩ ?_
  rintro state entries op after event ⟨nodes, represents⟩ taken
  obtain ⟨kept, matched, held⟩ := represents.simulated taken
  exact ⟨op.call, kept, matched, held⟩

theorem entriesRun_finite {kind : JobMapKind} {trace : List MapEvent} {entries : RgaJobMap}
    (run : Machine.Run (entriesStep kind) [] trace entries) :
    ∃ jobs, Machine.Run finiteStep ∅ trace jobs ∧ Holds entries jobs := by
  refine run.simulated (R := Holds) ⟨List.nodupKeys_nil, rfl⟩ ?_
  intro entries jobs call after event holds taken
  obtain ⟨reported, kept, moved, answered, matched, still⟩ := holds.step kind call
  obtain ⟨rfl, rfl⟩ := Prod.mk.inj (Option.some.inj (taken.symm.trans answered))
  exact ⟨call, moved, matched, still⟩

theorem finiteRun_entries (kind : JobMapKind) {trace : List MapEvent} {jobs : FiniteJobMap}
    (run : Machine.Run finiteStep ∅ trace jobs) :
    ∃ entries, Machine.Run (entriesStep kind) [] trace entries ∧ Holds entries jobs := by
  refine run.simulated (R := fun jobs entries => Holds entries jobs) ⟨List.nodupKeys_nil, rfl⟩ ?_
  intro jobs entries call after event holds taken
  obtain ⟨reported, kept, moved, matched, answered, still⟩ := holds.step kind call
  obtain ⟨rfl, rfl⟩ := Prod.mk.inj (Option.some.inj (taken.symm.trans answered))
  exact ⟨call, kept, matched, still⟩

/-- Whatever calls the list has answered, the `std::map` and the finite map answer alike and
hold the same jobs; the links of the list agree both ways, and every further call completes. -/
theorem jobList_refines {head tail : Option NodePtr} {trace : List MapEvent} {jobMap : RgaMapList}
    (run : Machine.Run listStep (rgaMapListInit ⟨fun _ => none, head, tail⟩) trace jobMap) :
    ∃ nodes sorted jobs,
      Machine.Run (entriesStep .stdMap) [] trace sorted ∧ Machine.Run finiteStep ∅ trace jobs ∧
      jobs.entries = sorted ∧ jobs.entries.map nodeData = nodes.map Prod.snd ∧
      Walk Node.next jobMap.heap jobMap.head nodes ∧
      Walk Node.prev jobMap.heap jobMap.tail nodes.reverse ∧
      (∀ call block, (∀ handle job, call = .insertJob handle job → jobMap.heap block = none) →
        ∃ after event, ∀ fuel, nodes.length ≤ fuel →
          listStep jobMap ⟨call, block, fuel⟩ = some (after, event)) ∧
      ∀ block fuel, nodes.length ≤ fuel → listStep jobMap ⟨.deatroy, block, fuel⟩ =
        some (rgaMapListInit ⟨fun _ => none, head, tail⟩, .deatroyed) := by
  obtain ⟨entries, listRun, nodes, represents⟩ := listRun_simulated run
  obtain ⟨jobs, finiteRun, listed⟩ := entriesRun_finite listRun
  obtain ⟨sorted, mapRun, held⟩ := finiteRun_entries .stdMap finiteRun
  refine ⟨nodes, sorted, jobs, mapRun, finiteRun, held.same, ?_, represents.linked.forward,
    represents.linked.backward, ?_, ?_⟩
  · rw [listed.same, Multiset.map_coe, ← represents.stored]
  · intro call block fresh
    obtain ⟨after, event, _, _, completed, -⟩ := represents.completes call block le_rfl
      fun handle job inserts _ => fresh handle job inserts
    exact ⟨after, event, fun fuel enough => listStep_mono enough completed⟩
  · intro block fuel enough
    simp only [listStep, rgaMapListDeatroy_linked represents.linked enough]
    rfl

/-- Three jobs in, a repeated handle, then the middle, the first and the last job out. -/
def churnOps : List ListOp :=
  [⟨.insertJob 7 0x700, 0x1000, 3⟩, ⟨.insertJob 2 0x200, 0x2000, 3⟩,
    ⟨.insertJob 5 0x500, 0x3000, 3⟩, ⟨.insertJob 2 0x900, 0x4000, 3⟩, ⟨.deleteJob 2, 0, 3⟩,
    ⟨.insertJob 1 0x100, 0x2000, 3⟩, ⟨.deleteJob 7, 0, 3⟩, ⟨.deleteJob 1, 0, 3⟩,
    ⟨.findJob 1, 0, 3⟩, ⟨.findJob 5, 0, 3⟩]

def churnTrace : List MapEvent :=
  [.found 5 0x500, .found 1 0, .deleted 1, .deleted 7, .inserted 1 0x100 false, .deleted 2,
    .inserted 2 0x900 true, .inserted 5 0x500 false, .inserted 2 0x200 false,
    .inserted 7 0x700 false]

theorem jobList_refines_churn :
    ∃ jobMap, Machine.Run listStep (rgaMapListInit ⟨fun _ => none, none, none⟩) churnTrace jobMap ∧
      ∃ nodes sorted, Machine.Run (entriesStep .stdMap) [] churnTrace sorted ∧
        Walk Node.next jobMap.heap jobMap.head nodes ∧
        Walk Node.prev jobMap.heap jobMap.tail nodes.reverse := by
  have performed : ∃ jobMap, Machine.exec listStep churnOps
      ([], rgaMapListInit ⟨fun _ => none, none, none⟩) = some (churnTrace, jobMap) := ⟨_, rfl⟩
  obtain ⟨jobMap, performed⟩ := performed
  have run := Machine.Run.of_exec listStep _ churnOps performed
  obtain ⟨nodes, sorted, jobs, mapRun, -, -, -, forward, backward, -, -⟩ := jobList_refines run
  exact ⟨jobMap, run, nodes, sorted, mapRun, forward, backward⟩

end LibRga.JobList
