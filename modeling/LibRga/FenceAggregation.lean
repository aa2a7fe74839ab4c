import LibRga.FenceArray

/-!
Which fences the array calls leave open, and which operations the one they
report stands for.

A run without a second fence reports the only one there is. With a second one
both stay open, since neither the loop nor a merge closes what it was given.
-/

namespace LibRga.Fenced

open Interaction

/-- The fences that have been opened, newest first, each with the operations it covers. Operations
are numbered in the order of their fences. -/
structure Ledger where
  submitted : Nat := 0
  opened : List (Int32 × List Nat) := []
  closed : List Int32 := []
deriving DecidableEq, Repr

namespace Ledger

variable (ledger : Ledger)

def fds : List Int32 :=
  ledger.opened.map Prod.fst

def covers (fd : Int32) : List Nat :=
  ((ledger.opened.find? fun entry => entry.1 = fd).map Prod.snd).getD []

def record (fence : Int32) : Ledger :=
  { ledger with
    submitted := ledger.submitted + 1
    opened := (fence, [ledger.submitted]) :: ledger.opened }

def merge (fd1 fd2 fence : Int32) : Ledger :=
  if 0 ≤ fence then
    { ledger with opened := (fence, ledger.covers fd1 ++ ledger.covers fd2) :: ledger.opened }
  else ledger

def observe : Sigma Call.Reply → Ledger
  | ⟨.rgaSingleTaskSubmit args, (reply : FenceReply)⟩ =>
      if lacksFence args = false ∧ has args.usage imAsync ∧ reply.status = .success ∧
          0 ≤ reply.fence then
        ledger.record reply.fence
      else ledger
  | ⟨.modernSyncMerge _ fd1 fd2, (reply : MergeReply)⟩
  | ⟨.legacySyncMerge _ fd1 fd2, (reply : MergeReply)⟩ => ledger.merge fd1 fd2 reply.fence
  | ⟨.close fd, _⟩ => { ledger with closed := fd :: ledger.closed }
  | ⟨.loadUapiVersion, _⟩ | ⟨.storeUapiVersion _, _⟩ => ledger

/-- The reported fence covers every operation, and every other one has been closed once. -/
structure Settled (slot : Option Int32) : Prop where
  covered : ∀ op < ledger.submitted, ∃ fd, slot = some fd ∧ op ∈ ledger.covers fd
  closed : ∀ fd, slot ≠ some fd → ledger.closed.count fd = ledger.fds.count fd
  reported : ∀ fd ∈ ledger.fds, slot = some fd →
    ledger.closed.count fd + 1 = ledger.fds.count fd

end Ledger

def outcome : Sigma Call.Reply → Option FenceReply
  | ⟨.rgaSingleTaskSubmit args, (reply : FenceReply)⟩ =>
      if lacksFence args then none else some reply
  | _ => none

def outcomes (trace : List (Sigma Call.Reply)) : List FenceReply :=
  trace.filterMap outcome

def fences (outcomes : List FenceReply) : List Int32 :=
  (outcomes.filter fun reply => reply.status = .success ∧ 0 ≤ reply.fence).map FenceReply.fence

/-- How far back from the operation that fails the fence in the place may come from: the one before,
or the whole rectangle when that was finished. -/
def reach (window count : Nat) : Nat :=
  if window ∣ count then window else 1

/-- There is no second fence, and nothing overwrites the first before a failure. -/
structure SingleFence (window : Nat) (outcomes : List FenceReply) : Prop where
  single : (fences outcomes).length ≤ 1
  standing : ∀ done failed, outcomes = done ++ [failed] → failed.status ≠ .success →
    fences (done.take (done.length - reach window done.length)) = []

def edges (thickness : Int32) : Nat :=
  if thickness < 0 then 1 else 4

/-- The number of operations between two writes of the loop. -/
def ArrayCall.window : ArrayCall → Nat
  | imrectangleArray _ _ _ thickness => edges thickness
  | _ => 1

section Fences

variable {first second : List FenceReply} {reply : FenceReply}

@[simp]
theorem fences_nil : fences [] = [] :=
  rfl

@[simp]
theorem fences_append : fences (first ++ second) = fences first ++ fences second := by
  simp [fences]

theorem fences_failed (failed : reply.status ≠ .success) : fences [reply] = [] := by
  simp [fences, failed]

theorem fences_fenced (succeeded : reply.status = .success) (present : 0 ≤ reply.fence) :
    fences [reply] = [reply.fence] := by
  simp [fences, succeeded, present]

theorem fences_unfenced (absent : ¬0 ≤ reply.fence) : fences [reply] = [] := by
  simp [fences, absent]

theorem fences_nonneg {fence : Int32} (listed : fence ∈ fences first) : 0 ≤ fence := by
  obtain ⟨reply, taken, rfl⟩ := List.mem_map.mp listed
  exact (of_decide_eq_true (List.mem_filter.mp taken).2).2

end Fences

/-- A place that shows the fence of these operations, as long as there is no second one. -/
structure Shown (fence : Int32) (outcomes : List FenceReply) : Prop where
  absent : fences outcomes = [] → fence < 0
  only : ∀ single, fences outcomes = [single] → fence = single

/-- What operations do to the ledger, as long as there is no second fence. -/
structure Advance (before after : Ledger) (outcomes : List FenceReply) : Prop where
  closed : after.closed = before.closed
  grows : before.opened.length + (fences outcomes).length ≤ after.opened.length
  absent : fences outcomes = [] → after = before
  only : ∀ single, fences outcomes = [single] → after = before.record single

section Steps

variable {before between after : Ledger} {first second : List FenceReply} {tmp fence : Int32}

theorem Advance.refl (ledger : Ledger) : Advance ledger ledger [] :=
  ⟨rfl, le_rfl, fun _ => rfl, fun single listed => by cases listed⟩

theorem Advance.trans (left : Advance before between first)
    (right : Advance between after second) : Advance before after (first ++ second) := by
  refine ⟨right.closed.trans left.closed, ?_, ?_, ?_⟩
  · have lower := left.grows
    have upper := right.grows
    rw [fences_append, List.length_append]
    omega
  · intro absent
    rw [fences_append] at absent
    obtain ⟨leftAbsent, rightAbsent⟩ := List.append_eq_nil_iff.mp absent
    rw [right.absent rightAbsent, left.absent leftAbsent]
  · intro single listed
    rw [fences_append] at listed
    rcases List.append_eq_singleton_iff.mp listed with ⟨leftAbsent, only⟩ | ⟨only, rightAbsent⟩
    · rw [right.only single only, left.absent leftAbsent]
    · rw [right.absent rightAbsent, left.only single only]

theorem Advance.merged (advance : Advance before between first)
    (second : 2 ≤ (fences first).length) (closed : after.closed = between.closed)
    (grows : between.opened.length ≤ after.opened.length) : Advance before after first := by
  refine ⟨closed.trans advance.closed, advance.grows.trans grows, ?_, ?_⟩
  · intro absent
    rw [absent, List.length_nil] at second
    omega
  · intro single listed
    rw [listed, List.length_singleton] at second
    omega

theorem Shown.fenced (shown : Shown fence first) (present : 0 ≤ fence) : fences first ≠ [] :=
  fun absent => Int32.not_le.mpr (shown.absent absent) present

theorem Shown.of_second (second : 2 ≤ (fences first).length) : Shown fence first := by
  refine ⟨fun absent => ?_, fun single listed => ?_⟩
  · rw [absent, List.length_nil] at second
    omega
  · rw [listed, List.length_singleton] at second
    omega

theorem Shown.keep (left : Shown tmp first) (right : Shown fence second)
    (absent : ¬0 ≤ fence) : Shown tmp (first ++ second) := by
  refine ⟨fun none => ?_, fun single listed => ?_⟩
  · rw [fences_append] at none
    exact left.absent (List.append_eq_nil_iff.mp none).1
  · rw [fences_append] at listed
    rcases List.append_eq_singleton_iff.mp listed with ⟨_, only⟩ | ⟨only, _⟩
    · have shown := right.only single only
      have nonneg := fences_nonneg (only ▸ List.mem_singleton_self single)
      exact absurd (shown ▸ nonneg) absent
    · exact left.only single only

theorem Shown.take (left : Shown tmp first) (right : Shown fence second)
    (absent : ¬0 ≤ tmp) : Shown fence (first ++ second) := by
  refine ⟨fun none => ?_, fun single listed => ?_⟩
  · rw [fences_append] at none
    exact right.absent (List.append_eq_nil_iff.mp none).2
  · rw [fences_append] at listed
    rcases List.append_eq_singleton_iff.mp listed with ⟨_, only⟩ | ⟨only, _⟩
    · exact right.only single only
    · have shown := left.only single only
      have nonneg := fences_nonneg (only ▸ List.mem_singleton_self single)
      exact absurd (shown ▸ nonneg) absent

theorem Shown.twice (left : Shown tmp first) (right : Shown fence second) (present : 0 ≤ tmp)
    (also : 0 ≤ fence) : 2 ≤ (fences (first ++ second)).length := by
  have some := List.length_pos_iff.mpr (left.fenced present)
  have other := List.length_pos_iff.mpr (right.fenced also)
  rw [fences_append, List.length_append]
  omega

end Steps

abbrev Track := Ledger × List FenceReply

def watch (state : Track) (exchange : Sigma Call.Reply) : Track :=
  (state.1.observe exchange, state.2 ++ (outcome exchange).toList)

theorem foldl_watch (trace : List (Sigma Call.Reply)) (state : Track) :
    trace.foldl watch state = (trace.foldl Ledger.observe state.1, state.2 ++ outcomes trace) := by
  induction trace generalizing state with
  | nil => simp [outcomes]
  | cons exchange rest ih =>
      rw [List.foldl_cons, ih]
      cases taken : outcome exchange <;> simp [watch, outcomes, taken]

def Leads {α : Type} (prog : Program α) (post : Track → α → Prop) (state : Track) : Prop :=
  prog.wp watch (fun _ => True) post state

section Loop

variable {state : Track} {size window : Nat} {old : Int32}

/-- What is in the place when an operation has failed. -/
structure Standing (window : Nat) (old : Int32) (done : List FenceReply) (fence : Int32) :
    Prop where
  untouched : done = [] → fence = old
  last : done ≠ [] → Shown fence (done.drop (done.length - reach window done.length))

/-- How a call with `size` operations ends. -/
inductive Ends (size window : Nat) (state : Track) (old : Int32) : Track → ArrayResult → Prop
  | complete {after : Ledger} {done : List FenceReply} {fence : Int32}
      (succeeded : ∀ reply ∈ done, reply.status = .success) (length : done.length = size)
      (advance : Advance state.1 after done) (shown : Shown fence done) :
      Ends size window state old (after, state.2 ++ done) ⟨.success, some fence⟩
  | stopped {after : Ledger} {done : List FenceReply} {fence : Int32} {failed : FenceReply}
      {status : ImStatus}
      (succeeded : ∀ reply ∈ done, reply.status = .success) (length : done.length < size)
      (advance : Advance state.1 after done) (standing : Standing window old done fence)
      (failure : failed.status ≠ .success) (reported : status ≠ .success) :
      Ends size window state old (after, state.2 ++ (done ++ [failed])) ⟨status, some fence⟩

def Carried (size window : Nat) (op : Option Int32 → Program ArrayResult) : Prop :=
  ∀ state old, Leads (op (some old)) (Ends size window state old) state

theorem merge_closed (ledger : Ledger) (fd1 fd2 fence : Int32) :
    (ledger.merge fd1 fd2 fence).closed = ledger.closed := by
  unfold Ledger.merge
  split <;> rfl

theorem merge_grows (ledger : Ledger) (fd1 fd2 fence : Int32) :
    ledger.opened.length ≤ (ledger.merge fd1 fd2 fence).opened.length := by
  unfold Ledger.merge
  split
  · exact Nat.le_succ _
  · exact le_rfl

theorem rgaSyncMerge_leads (name : String) (fd1 fd2 : Int32) {post : Track → Int32 → Prop}
    (holds : ∀ after merged, after.closed = state.1.closed →
      state.1.opened.length ≤ after.opened.length → post (after, state.2) merged) :
    Leads (rgaSyncMerge name fd1 fd2) post state := by
  let keeps (after : Track) : Prop := after.2 = state.2 ∧ after.1.closed = state.1.closed ∧
    state.1.opened.length ≤ after.1.opened.length
  refine @rgaSyncMerge_wp _ watch keeps post state name fd1 fd2 ?_ ?_ ⟨rfl, rfl, le_rfl⟩
  · rintro after request answer merging ⟨same, closed, grows⟩
    cases request with
    | rgaSingleTaskSubmit args => cases merging
    | close fd => cases merging
    | loadUapiVersion => exact ⟨(List.append_nil _).trans same, closed, grows⟩
    | storeUapiVersion version => exact ⟨(List.append_nil _).trans same, closed, grows⟩
    | modernSyncMerge name fd1 fd2 =>
        exact ⟨(List.append_nil _).trans same, (merge_closed ..).trans closed,
          grows.trans (merge_grows ..)⟩
    | legacySyncMerge name fd1 fd2 =>
        exact ⟨(List.append_nil _).trans same, (merge_closed ..).trans closed,
          grows.trans (merge_grows ..)⟩
  · rintro ⟨after, outcomes⟩ merged ⟨rfl, closed, grows⟩
    exact holds after merged closed grows

theorem record_advance {ledger : Ledger} {reply : FenceReply}
    (succeeded : reply.status = .success) :
    Advance ledger (if 0 ≤ reply.fence then ledger.record reply.fence else ledger) [reply] := by
  by_cases present : 0 ≤ reply.fence
  · have listed := fences_fenced succeeded present
    rw [if_pos present]
    refine ⟨rfl, by rw [listed]; exact le_rfl, ?_, ?_⟩
    · intro absent
      rw [listed] at absent
      cases absent
    · intro single only
      rw [listed] at only
      rw [List.singleton_inj.mp only]
  · have absent := fences_unfenced present
    rw [if_neg present]
    refine ⟨rfl, by rw [absent]; exact le_rfl, fun _ => rfl, ?_⟩
    intro single only
    rw [absent] at only
    cases only

theorem record_shown {reply : FenceReply} (succeeded : reply.status = .success) :
    Shown reply.fence [reply] := by
  by_cases present : 0 ≤ reply.fence
  · have listed := fences_fenced succeeded present
    refine ⟨fun absent => ?_, fun single only => ?_⟩
    · rw [listed] at absent
      cases absent
    · rw [listed] at only
      exact List.singleton_inj.mp only
  · have absent := fences_unfenced present
    refine ⟨fun _ => Int32.not_le.mp present, fun single only => ?_⟩
    rw [absent] at only
    cases only

theorem submit_carried {args : Option Int32 → TaskArgs}
    (placed : ∀ old, lacksFence (args (some old)) = false)
    (async : ∀ slot, has (args slot).usage imAsync = true) :
    Carried 1 1 fun slot => submit (args slot) slot := by
  intro state old (reply : FenceReply) _
  have observed : watch state ⟨.rgaSingleTaskSubmit (args (some old)), reply⟩ =
      (if reply.status = .success ∧ 0 ≤ reply.fence then state.1.record reply.fence
        else state.1, state.2 ++ [reply]) := by
    simp [watch, outcome, Ledger.observe, placed, async]
  beta_reduce
  rw [observed, placed, if_neg Bool.false_ne_true, async]
  by_cases succeeded : reply.status = .success
  · have advance := @record_advance state.1 _ succeeded
    rw [if_pos ⟨rfl, succeeded⟩, succeeded]
    simp only [true_and]
    exact .complete (by simpa using succeeded) rfl advance (record_shown succeeded)
  · rw [if_neg fun both => succeeded both.2, if_neg fun both => succeeded both.1]
    exact .stopped (List.forall_mem_nil _) Nat.zero_lt_one (Advance.refl state.1)
      ⟨fun _ => rfl, fun other => absurd rfl other⟩ succeeded succeeded

theorem reach_finished (size count : Nat) : reach size (size * count) = size :=
  if_pos (Nat.dvd_mul_right size count)

theorem reach_between {size count part : Nat} (started : 0 < part) (open_ : part < size) :
    reach size (size * count + part) = 1 := by
  refine if_neg fun divides => ?_
  have divided := (Nat.dvd_add_right (Nat.dvd_mul_right size count)).mp divides
  exact absurd (Nat.le_of_dvd started divided) (Nat.not_le.mpr open_)

theorem reach_one (count : Nat) : reach 1 count = 1 :=
  if_pos (one_dvd count)

/-- The place after some rectangles have been finished. -/
structure Placed (size : Nat) (start old : Int32) (done : List FenceReply) : Prop where
  untouched : done = [] → old = start
  last : done ≠ [] → Shown old (done.drop (done.length - size))

theorem Placed.chunk {start : Int32} {done chunk : List FenceReply} {fence : Int32}
    (positive : 0 < size) (length : chunk.length = size) (shown : Shown fence chunk) :
    Placed size start fence (done ++ chunk) := by
  have present : done ++ chunk ≠ [] := by
    intro none
    have empty := (List.append_eq_nil_iff.mp none).2
    rw [empty, List.length_nil] at length
    omega
  refine ⟨fun none => absurd none present, fun _ => ?_⟩
  have before : (done ++ chunk).length - size = done.length := by
    rw [List.length_append]
    omega
  rw [before, List.drop_left]
  exact shown

theorem Standing.append {start : Int32} {done chunk : List FenceReply} {fence : Int32} {count : Nat}
    (finished : done.length = size * count) (unfinished : chunk.length < size)
    (placed : Placed size start old done) (standing : Standing 1 old chunk fence) :
    Standing size start (done ++ chunk) fence := by
  cases chunk with
  | nil =>
      have same := standing.untouched rfl
      rw [List.append_nil, same]
      refine ⟨placed.untouched, fun present => ?_⟩
      rw [finished, reach_finished, ← finished]
      exact placed.last present
  | cons reply rest =>
      have started : 0 < (reply :: rest).length := Nat.succ_pos _
      refine ⟨fun none => absurd (List.append_eq_nil_iff.mp none).2 (List.cons_ne_nil _ _), ?_⟩
      intro _
      have last := standing.last (List.cons_ne_nil _ _)
      rw [reach_one] at last
      have skipped : (done ++ reply :: rest).length - 1 =
          done.length + ((reply :: rest).length - 1) := by
        rw [List.length_append]
        omega
      have one := @reach_between size count _ started unfinished
      rw [← finished, ← List.length_append] at one
      rw [one, skipped, List.drop_length_add_append]
      exact last

theorem foldRects_leads {name : String} {op : ImRect → Option Int32 → Program ArrayResult}
    {start : Track} {first : Int32} (positive : 0 < size)
    (carried : ∀ rect, Carried size 1 (op rect)) (rects : List ImRect) {ledger : Ledger}
    {done : List FenceReply} {count : Nat} {tmp : Int32}
    (succeeded : ∀ reply ∈ done, reply.status = .success) (finished : done.length = size * count)
    (advance : Advance start.1 ledger done) (shown : Shown tmp done)
    (placed : Placed size first old done) :
    Leads (foldRects name 0 op rects tmp (some old))
      (Ends (size * (count + rects.length)) size start first) (ledger, start.2 ++ done) := by
  induction rects generalizing ledger done count tmp old with
  | nil => exact .complete succeeded finished advance shown
  | cons rect rest ih =>
      refine Prog.wp_bind.mpr (Prog.wp_mono (carried rect (ledger, start.2 ++ done) old) ?_)
      intro after result ends
      cases ends with
      | @stopped after chunk fence failed status chunkSucceeded unfinished chunkAdvance standing
          failure reported =>
          have total : (done ++ chunk).length < size * (count + (rect :: rest).length) := by
            have grown := Nat.mul_add size count (rest.length + 1)
            have one := Nat.mul_succ size rest.length
            rw [List.length_append, List.length_cons, finished, grown, one]
            omega
          have ended : Ends _ size start first _ _ :=
            .stopped (List.forall_mem_append.mpr ⟨succeeded, chunkSucceeded⟩) total
              (advance.trans chunkAdvance) (Standing.append finished unfinished placed standing)
              failure reported
          rw [if_pos reported]
          simp only [List.append_assoc] at ended ⊢
          exact ended
      | @complete after chunk fence chunkSucceeded length chunkAdvance chunkShown =>
          have next {ledger : Ledger} {tmp : Int32}
              (advance : Advance start.1 ledger (done ++ chunk))
              (shown : Shown tmp (done ++ chunk)) :
              Leads (foldRects name 0 op rest tmp (some fence))
                (Ends (size * (count + (rect :: rest).length)) size start first)
                (ledger, start.2 ++ done ++ chunk) := by
            have grown : (done ++ chunk).length = size * (count + 1) := by
              rw [List.length_append, finished, length, Nat.mul_succ]
            have rest := ih (List.forall_mem_append.mpr ⟨succeeded, chunkSucceeded⟩) grown advance
              shown (Placed.chunk positive length chunkShown)
            rw [Nat.add_assoc, Nat.add_comm 1] at rest
            rw [List.append_assoc]
            exact rest
          have through := advance.trans chunkAdvance
          rw [if_neg (not_not.mpr rfl)]
          by_cases both : 0 ≤ fence ∧ 0 ≤ tmp
          · have second := shown.twice chunkShown both.2 both.1
            simp only [Option.getD_some, both, and_self, if_true]
            refine Prog.wp_bind.mpr (rgaSyncMerge_leads _ _ _ ?_)
            intro merged fd closed grows
            exact next (through.merged second closed grows) (Shown.of_second second)
          · by_cases present : 0 ≤ fence
            · have quiet : ¬0 ≤ tmp := fun other => both ⟨present, other⟩
              simp only [Option.getD_some, present, quiet, and_false, if_false, and_self, if_true]
              exact next through (shown.take chunkShown quiet)
            · simp only [Option.getD_some, present, false_and, and_false, if_false]
              exact next through (shown.keep chunkShown present)

theorem foldRects_carried {name : String} {op : ImRect → Option Int32 → Program ArrayResult}
    (positive : 0 < size) (carried : ∀ rect, Carried size 1 (op rect)) (rects : List ImRect) :
    Carried (size * rects.length) size fun slot => foldRects name 0 op rects (-1) slot := by
  intro state old
  have unset : Shown (-1) [] := ⟨fun _ => by decide, fun single only => by cases only⟩
  have placed : Placed size old old [] := ⟨fun _ => rfl, fun other => absurd rfl other⟩
  have run := @foldRects_leads size old name op state old positive carried rects state.1 [] 0 (-1)
    (List.forall_mem_nil _) rfl (Advance.refl state.1) unset placed
  rw [Nat.zero_add, List.append_nil] at run
  exact run

/-- Without a place for the fence nothing is submitted. -/
def Idle (op : Option Int32 → Program ArrayResult) : Prop :=
  ∀ state, Leads (op none) (fun after result => after = state ∧ result.slot = none) state

theorem submit_idle {args : Option Int32 → TaskArgs} (lacking : lacksFence (args none) = true) :
    Idle fun slot => submit (args slot) slot := by
  intro state (reply : FenceReply) _
  have unseen : watch state ⟨.rgaSingleTaskSubmit (args none), reply⟩ = state := by
    simp [watch, outcome, Ledger.observe, lacking]
  beta_reduce
  rw [lacking, if_pos rfl, unseen]
  exact ⟨rfl, rfl⟩

theorem foldRects_idle {name : String} {op : ImRect → Option Int32 → Program ArrayResult}
    (idle : ∀ rect, Idle (op rect)) (rects : List ImRect) (tmp : Int32) :
    Idle fun slot => foldRects name 0 op rects tmp slot := by
  intro state
  induction rects with
  | nil => exact ⟨rfl, rfl⟩
  | cons rect rest ih =>
      refine Prog.wp_bind.mpr (Prog.wp_mono (idle rect state) ?_)
      rintro after ⟨status, slot⟩ ⟨same, unplaced⟩
      cases same
      cases unplaced
      by_cases failed : status ≠ .success
      · rw [if_pos failed]
        exact ⟨rfl, rfl⟩
      · have absent : ¬(0 : Int32) ≤ -1 := by decide
        rw [if_neg failed]
        simp only [Option.getD_none, absent, and_false, false_and, if_false]
        exact ih

end Loop

section Calls

theorem fill_async : has (imColorFill ||| syncUsage 0) imAsync = true := by
  decide

theorem mosaic_async : has (imMosaic ||| syncUsage 0) imAsync = true := by
  decide

theorem imfill_carried (dst : RgaBuffer) (rect : ImRect) (color : Int32) :
    Carried 1 1 (imfill dst rect color 0) :=
  @submit_carried (fun slot => fillArgs dst rect color 0 slot.isSome)
    (fun _ => Bool.and_false _) fun _ => fill_async

theorem imfill_idle (dst : RgaBuffer) (rect : ImRect) (color : Int32) :
    Idle (imfill dst rect color 0) := by
  refine @submit_idle (fun slot => fillArgs dst rect color 0 slot.isSome) ?_
  exact Bool.and_eq_true_iff.mpr ⟨fill_async, rfl⟩

theorem immosaic_carried (image : RgaBuffer) (rect : ImRect) (mosaicMode : Int32) :
    Carried 1 1 (immosaic image rect mosaicMode 0) :=
  @submit_carried (fun slot => mosaicArgs image rect mosaicMode 0 slot.isSome)
    (fun _ => Bool.and_false _) fun _ => mosaic_async

theorem immosaic_idle (image : RgaBuffer) (rect : ImRect) (mosaicMode : Int32) :
    Idle (immosaic image rect mosaicMode 0) := by
  refine @submit_idle (fun slot => mosaicArgs image rect mosaicMode 0 slot.isSome) ?_
  exact Bool.and_eq_true_iff.mpr ⟨mosaic_async, rfl⟩

theorem imfillArray_carried (dst : RgaBuffer) (rects : List ImRect) (color : UInt32) :
    Carried rects.length 1 (imfillArray dst rects color 0) := by
  have carried := @foldRects_carried 1 "fill_array" _ Nat.one_pos
    (fun rect => imfill_carried dst rect color.toInt32) rects
  rw [Nat.one_mul] at carried
  exact carried

theorem imfillArray_idle (dst : RgaBuffer) (rects : List ImRect) (color : UInt32) :
    Idle (imfillArray dst rects color 0) :=
  foldRects_idle (fun rect => imfill_idle dst rect color.toInt32) rects (-1)

theorem edges_pos (thickness : Int32) : 0 < edges thickness := by
  unfold edges
  split <;> omega

theorem imrectangle_carried (dst : RgaBuffer) (rect : ImRect) (color : UInt32)
    (thickness : Int32) : Carried (edges thickness) 1 (imrectangle dst rect color thickness 0) := by
  unfold imrectangle edges
  by_cases filled : thickness < 0
  · simp only [filled, if_true]
    exact imfill_carried dst rect color.toInt32
  · simp only [filled, if_false]
    exact imfillArray_carried dst (rectangleSides rect thickness) color

theorem imrectangle_idle (dst : RgaBuffer) (rect : ImRect) (color : UInt32) (thickness : Int32) :
    Idle (imrectangle dst rect color thickness 0) := by
  unfold imrectangle
  by_cases filled : thickness < 0
  · simp only [filled, if_true]
    exact imfill_idle dst rect color.toInt32
  · simp only [filled, if_false]
    exact imfillArray_idle dst (rectangleSides rect thickness) color

theorem program_carried (call : ArrayCall) :
    ∃ size, Carried size call.window fun slot => call.program 0 slot := by
  cases call with
  | imfillArray dst rects color => exact ⟨_, imfillArray_carried dst rects color⟩
  | immosaicArray dst rects mosaicMode =>
      exact ⟨_, foldRects_carried Nat.one_pos
        (fun rect => immosaic_carried dst rect mosaicMode) rects⟩
  | imrectangle dst rect color thickness => exact ⟨_, imrectangle_carried dst rect color thickness⟩
  | imrectangleArray dst rects color thickness =>
      exact ⟨_, foldRects_carried (edges_pos thickness)
        (fun rect => imrectangle_carried dst rect color thickness) rects⟩

theorem program_idle (call : ArrayCall) : Idle fun slot => call.program 0 slot := by
  cases call with
  | imfillArray dst rects color => exact imfillArray_idle dst rects color
  | immosaicArray dst rects mosaicMode =>
      exact foldRects_idle (fun rect => immosaic_idle dst rect mosaicMode) rects (-1)
  | imrectangle dst rect color thickness => exact imrectangle_idle dst rect color thickness
  | imrectangleArray dst rects color thickness =>
      exact foldRects_idle (fun rect => imrectangle_idle dst rect color thickness) rects (-1)

end Calls

section Settling

variable {ledger : Ledger} {slot : Option Int32} {done : List FenceReply} {single fence : Int32}

theorem settled_empty : Ledger.Settled {} slot := by
  refine ⟨fun op below => absurd below (Nat.not_lt_zero op), fun _ _ => rfl, ?_⟩
  intro fd opened
  cases opened

theorem settled_record : (Ledger.record {} single).Settled slot ↔ slot = some single := by
  constructor
  · intro settled
    by_contra other
    have count := settled.closed single other
    simp [Ledger.record, Ledger.fds] at count
  · rintro rfl
    refine ⟨fun op below => ⟨single, rfl, ?_⟩, fun fd other => ?_, fun fd opened same => ?_⟩
    · have first : op = 0 := Nat.lt_one_iff.mp below
      simp [Ledger.record, Ledger.covers, first]
    · have apart : single ≠ fd := fun same => other (congrArg some same)
      simp [Ledger.record, Ledger.fds, apart]
    · cases same
      simp [Ledger.record, Ledger.fds]

theorem not_settled_two (closed : ledger.closed = []) (two : 2 ≤ ledger.opened.length) :
    ¬ledger.Settled slot := by
  intro settled
  have reported : ∀ fd ∈ ledger.fds, slot = some fd := by
    intro fd opened
    by_contra other
    have count := settled.closed fd other
    rw [closed, List.count_nil] at count
    exact List.count_eq_zero.mp count.symm opened
  have length : ledger.fds.length = ledger.opened.length := List.length_map _
  obtain ⟨fd, opened⟩ := List.exists_mem_of_length_pos (l := ledger.fds) (by omega)
  have count := settled.reported fd opened (reported fd opened)
  have all : ∀ other ∈ ledger.fds, fd = other := by
    intro other also
    exact Option.some.inj ((reported fd opened).symm.trans (reported other also))
  rw [closed, List.count_nil, List.count_eq_length.mpr all] at count
  omega

theorem fences_take_drop (done : List FenceReply) (count : Nat) :
    fences done = fences (done.take count) ++ fences (done.drop count) := by
  rw [← fences_append, List.take_append_drop]

theorem singleFence_done {window : Nat} (succeeded : ∀ reply ∈ done, reply.status = .success) :
    SingleFence window done ↔ (fences done).length ≤ 1 := by
  refine ⟨SingleFence.single, fun single => ⟨single, ?_⟩⟩
  rintro others failed rfl failure
  exact absurd (succeeded failed (List.mem_append_right _ (List.mem_singleton_self _))) failure

theorem singleFence_failed {window : Nat} {failed : FenceReply}
    (failure : failed.status ≠ .success) :
    SingleFence window (done ++ [failed]) ↔
      (fences done).length ≤ 1 ∧
        fences (done.take (done.length - reach window done.length)) = [] := by
  have same : fences (done ++ [failed]) = fences done := by
    rw [fences_append, fences_failed failure, List.append_nil]
  constructor
  · intro fence
    exact ⟨same ▸ fence.single, fence.standing done failed rfl failure⟩
  · rintro ⟨single, standing⟩
    refine ⟨same ▸ single, ?_⟩
    intro others last split _
    obtain ⟨rfl, _⟩ := List.append_inj' split rfl
    exact standing

theorem standing_iff {window : Nat} {old : Int32} (standing : Standing window old done fence)
    (only : fences done = [single]) :
    fence = single ↔ fences (done.take (done.length - reach window done.length)) = [] := by
  have present : done ≠ [] := by
    rintro rfl
    cases only
  have nonneg : 0 ≤ single := fences_nonneg (only ▸ List.mem_singleton_self single)
  have shown := standing.last present
  rw [fences_take_drop done (done.length - reach window done.length)] at only
  constructor
  · intro same
    rcases List.append_eq_singleton_iff.mp only with ⟨none, _⟩ | ⟨_, none⟩
    · exact none
    · exact absurd (same ▸ nonneg) (Int32.not_le.mpr (shown.absent none))
  · intro none
    rw [none, List.nil_append] at only
    exact shown.only single only

theorem Advance.settled {after : Ledger} (advance : Advance {} after done) :
    (fences done = [] ∧ after.Settled slot) ∨
      (∃ single, fences done = [single] ∧ (after.Settled slot ↔ slot = some single)) ∨
      (¬(fences done).length ≤ 1 ∧ ¬after.Settled slot) := by
  rcases listed : fences done with _ | ⟨single, _ | ⟨other, rest⟩⟩
  · refine .inl ⟨rfl, ?_⟩
    rw [advance.absent listed]
    exact settled_empty
  · refine .inr (.inl ⟨single, rfl, ?_⟩)
    rw [advance.only single listed]
    exact settled_record
  · have grows := advance.grows
    rw [listed, List.length_cons, List.length_cons] at grows
    refine .inr (.inr ⟨?_, not_settled_two advance.closed ?_⟩)
    · rw [List.length_cons, List.length_cons]
      omega
    · omega

theorem ends_settled {size window : Nat} {old : Int32} {after : Track} {result : ArrayResult}
    (ends : Ends size window ({}, []) old after result) :
    after.1.Settled result.slot ↔ SingleFence window after.2 := by
  cases ends with
  | @complete after done fence succeeded length advance shown =>
      rw [List.nil_append, singleFence_done succeeded]
      rcases advance.settled with ⟨none, settled⟩ | ⟨single, only, settled⟩ | ⟨several, open_⟩
      · exact iff_of_true settled (by rw [none]; exact Nat.zero_le _)
      · refine iff_of_true (settled.mpr ?_) (by rw [only]; exact le_rfl)
        rw [shown.only single only]
      · exact iff_of_false open_ several
  | @stopped after done fence failed status succeeded length advance standing failure reported =>
      rw [List.nil_append, singleFence_failed failure]
      rcases advance.settled with ⟨none, settled⟩ | ⟨single, only, settled⟩ | ⟨several, open_⟩
      · have split := fences_take_drop done (done.length - reach window done.length)
        rw [none] at split
        refine iff_of_true settled ⟨?_, (List.append_eq_nil_iff.mp split.symm).1⟩
        rw [none]
        exact Nat.zero_le _
      · have alone : (fences done).length ≤ 1 := by rw [only]; exact le_rfl
        rw [settled, Option.some.injEq, standing_iff standing only]
        exact (and_iff_right alone).symm
      · exact iff_of_false open_ fun both => several both.1

end Settling

/-- The fences of an asynchronous call are accounted for exactly when there is at most one, and it
is still in its place when an operation fails. -/
theorem arrayFences_settled_iff (call : ArrayCall) (slot : Option Int32)
    {trace : List (Sigma Call.Reply)} {result : ArrayResult}
    (run : (call.program 0 slot).Run trace result) :
    (trace.foldl Ledger.observe {}).Settled result.slot ↔
      SingleFence call.window (outcomes trace) := by
  have tracked := foldl_watch trace ({}, [])
  rw [List.nil_append] at tracked
  cases slot with
  | none =>
      have idle := Prog.wp_run (program_idle call ({}, [])) run fun _ _ => trivial
      rw [tracked, Prod.mk.injEq] at idle
      obtain ⟨⟨unchanged, nothing⟩, _⟩ := idle
      rw [unchanged, nothing]
      exact iff_of_true settled_empty
        ((singleFence_done (List.forall_mem_nil _)).mpr (Nat.zero_le _))
  | some old =>
      obtain ⟨size, carried⟩ := program_carried call
      have ends := Prog.wp_run (carried ({}, []) old) run fun _ _ => trivial
      rw [tracked] at ends
      exact ends_settled ends

def twoRects : ArrayCall :=
  .imfillArray {} [{ width := 8, height := 8 }, { x := 8, width := 8, height := 8 }] 0xff

/-- The fence of a fill by where its rectangle begins, and 9 for every merge. -/
def fenceReplies (fence : Int32 → Int32) : ∀ call : Call, call.Reply
  | .rgaSingleTaskSubmit args =>
      ({ status := .success, fence := fence args.drect.x } : FenceReply)
  | .loadUapiVersion => UapiVersion.modern
  | .modernSyncMerge _ _ _ | .legacySyncMerge _ _ _ => ({ fence := 9 } : MergeReply)
  | .storeUapiVersion _ | .close _ => ()

theorem arrayFences_settled_one :
    ∃ trace result, (twoRects.program 0 (some 0)).Run trace result ∧ result.slot = some 5 ∧
      (outcomes trace).length = 2 ∧ (trace.foldl Ledger.observe {}).Settled result.slot := by
  have run := Prog.answered_run (fenceReplies fun x => if x = 0 then 5 else -1)
    (twoRects.program 0 (some 0))
  refine ⟨_, _, run, by decide +kernel, by decide +kernel, ?_⟩
  exact (arrayFences_settled_iff twoRects (some 0) run).mpr
    ((singleFence_done (by decide +kernel)).mpr (by decide +kernel))

/-- Two fills have fences 5 and 6, which are merged into 9. -/
theorem arrayFences_leaked :
    ∃ trace result, (twoRects.program 0 (some 0)).Run trace result ∧
      result = ⟨.success, some 9⟩ ∧ ¬(trace.foldl Ledger.observe {}).Settled result.slot := by
  have run := Prog.answered_run (fenceReplies fun x => if x = 0 then 5 else 6)
    (twoRects.program 0 (some 0))
  refine ⟨_, _, run, by decide +kernel, ?_⟩
  intro settled
  have counts := settled.closed 5 (by decide +kernel)
  revert counts
  decide +kernel

end LibRga.Fenced
