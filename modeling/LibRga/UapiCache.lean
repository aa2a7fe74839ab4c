import LibRga.FenceArray
import LibRga.Library.Interleaving

/-!
`g_uapi_version` under any number of threads that merge fences.

A kernel supports one of the two merge ioctls and answers the other one with
`ENOTTY`. A call loads the version, tries one ioctl or both and may store what
it has learnt; every one of these is a step of its own.
-/

namespace LibRga.Fenced

open Interaction

/-- The merge ioctl that a kernel supports. -/
inductive MergeUapi where
  | modern
  | legacy
deriving DecidableEq, Repr

namespace MergeUapi

def version : MergeUapi → UapiVersion
  | modern => .modern
  | legacy => .legacy

/-- Whether a kernel may answer the ioctl of `uapi` in this way. -/
def answers (kernel uapi : MergeUapi) (reply : MergeReply) : Prop :=
  if uapi = kernel then reply.fence < 0 → reply.enotty = false
  else reply.fence < 0 ∧ reply.enotty = true

instance decidableAnswers (kernel uapi : MergeUapi) (reply : MergeReply) :
    Decidable (kernel.answers uapi reply) :=
  inferInstanceAs (Decidable (if uapi = kernel then reply.fence < 0 → reply.enotty = false
    else reply.fence < 0 ∧ reply.enotty = true))

/-- `g_uapi_version` after an exchange; a merge makes no other calls. -/
def respond (kernel : MergeUapi) (version : UapiVersion) : Sigma Call.Reply → Option UapiVersion
  | ⟨.loadUapiVersion, loaded⟩ => if loaded = version then some version else none
  | ⟨.storeUapiVersion stored, _⟩ => some stored
  | ⟨.modernSyncMerge _ _ _, reply⟩ => if kernel.answers .modern reply then some version else none
  | ⟨.legacySyncMerge _ _ _, reply⟩ => if kernel.answers .legacy reply then some version else none
  | ⟨.rgaSingleTaskSubmit _, _⟩ | ⟨.close _, _⟩ => none

/-- What the supported ioctl answered, if the exchange is one. -/
def supported (kernel : MergeUapi) : Sigma Call.Reply → Option MergeReply
  | ⟨.modernSyncMerge _ _ _, reply⟩ => if kernel = .modern then some reply else none
  | ⟨.legacySyncMerge _ _ _, reply⟩ => if kernel = .legacy then some reply else none
  | _ => none

def successes (kernel : MergeUapi) (past : List (Sigma Call.Reply)) : Nat :=
  ((past.filterMap kernel.supported).filter fun reply => 0 ≤ reply.fence).length

/-- The arguments of one `rga_sync_merge`. -/
abbrev Merge := String × Int32 × Int32

def merge : Merge → Program Int32
  | (name, fd1, fd2) => rgaSyncMerge name fd1 fd2

abbrev State := Interleaved Thread Call Call.Reply Int32 UapiVersion

abbrev Event := InterleavedEvent Thread Merge Call Call.Reply Int32 UapiVersion

def start : State :=
  { shared := .unknown, underway := fun _ => none }

def step (kernel : MergeUapi) : State → InterleavedOp Thread Merge Call Call.Reply →
    Option (State × Event) :=
  Interleaved.step merge kernel.respond

/-- The cache holds what is supported or nothing, and a call makes one supported ioctl. -/
def contract (kernel : MergeUapi) : Contract Call Call.Reply Int32 UapiVersion where
  invariant version := version = .unknown ∨ version = kernel.version
  moves before after := after = before ∨ after = kernel.version
  along past := (past.filterMap kernel.supported).length ≤ 1
  post past result := ∃ reply, past.filterMap kernel.supported = [reply] ∧ result = reply.fence

variable {kernel : MergeUapi} {uapi : UapiVersion} {past : List (Sigma Call.Reply)}

theorem storeUapi_meets {reply : MergeReply} (one : past.filterMap kernel.supported = [reply]) :
    kernel.contract.Meets kernel.respond (storeUapi uapi kernel.version reply.fence) past := by
  unfold storeUapi
  split
  · refine ⟨by simp [contract, one], fun before answer after holds responded => ?_⟩
    cases responded
    refine ⟨.inr rfl, .inr rfl, ?_⟩
    have still : (⟨.storeUapiVersion kernel.version, answer⟩ :: past).filterMap kernel.supported =
        [reply] := one
    exact ⟨by simp [contract, still], reply, still, rfl⟩
  · exact ⟨by simp [contract, one], reply, one, rfl⟩

theorem legacyMerge_meets (name : String) (fd1 fd2 : Int32) (old : kernel = .legacy)
    (fresh : past.filterMap kernel.supported = []) :
    kernel.contract.Meets kernel.respond (legacyMerge uapi name fd1 fd2) past := by
  subst old
  refine ⟨by simp [contract, fresh], fun before reply after holds responded => ?_⟩
  simp only [respond, Option.ite_none_right_eq_some] at responded
  cases responded.2
  refine ⟨holds, .inl rfl, ?_⟩
  apply storeUapi_meets
  simp [supported, fresh]

theorem merge_meets (arguments : Merge) :
    kernel.contract.Meets kernel.respond (merge arguments) [] := by
  obtain ⟨name, fd1, fd2⟩ := arguments
  refine ⟨Nat.zero_le 1, fun before uapi after holds responded => ?_⟩
  simp only [respond, Option.ite_none_right_eq_some] at responded
  obtain ⟨rfl, same⟩ := responded
  cases same
  refine ⟨holds, .inl rfl, ?_⟩
  beta_reduce
  by_cases known : uapi = .legacy
  · have old : kernel = .legacy := by
      rw [known] at holds
      rcases holds with unknown | stored
      · cases unknown
      · cases kernel
        · cases stored
        · rfl
    rw [if_pos known]
    exact legacyMerge_meets name fd1 fd2 old rfl
  · rw [if_neg known]
    refine ⟨Nat.zero_le 1, fun before reply after still answered => ?_⟩
    simp only [respond, Option.ite_none_right_eq_some] at answered
    obtain ⟨answers, same⟩ := answered
    cases same
    refine ⟨still, .inl rfl, ?_⟩
    beta_reduce
    cases kernel with
    | modern =>
        have settled : 0 ≤ reply.fence ∨ reply.enotty = false := by
          by_cases made : 0 ≤ reply.fence
          · exact .inl made
          · exact .inr (answers (Int32.not_le.mp made))
        rw [if_pos settled]
        exact @storeUapi_meets .modern uapi _ reply rfl
    | legacy =>
        have missing : ¬(0 ≤ reply.fence ∨ reply.enotty = false) := by
          rintro (made | other)
          · exact absurd answers.1 (Int32.not_lt.mpr made)
          · rw [answers.2] at other
            cases other
        rw [if_neg missing]
        exact legacyMerge_meets name fd1 fd2 rfl rfl

theorem successes_le (kernel : MergeUapi) (past : List (Sigma Call.Reply)) :
    kernel.successes past ≤ (past.filterMap kernel.supported).length :=
  List.length_filter_le _ _

end MergeUapi

open MergeUapi in
theorem uapi_cache_settles (kernel : MergeUapi) (trace : List MergeUapi.Event)
    (state : MergeUapi.State) (run : Machine.Run kernel.step start trace state) :
    (state.shared = .unknown ∨ state.shared = kernel.version) ∧ changes trace ≤ 1 ∧
      (∀ thread call, state.underway thread = some call → kernel.successes call.past ≤ 1) ∧
      ∀ thread past result, .returned thread past result ∈ trace →
        kernel.successes past ≤ 1 ∧
          ∃ reply, past.filterMap kernel.supported = [reply] ∧ result = reply.fence := by
  obtain ⟨⟨holds, calls⟩, events⟩ := Contract.run_kept (fun arguments => merge_meets arguments)
    (.inl rfl) (fun _ => rfl) run
  have settles : ∀ event ∈ trace, ∀ before after, event.move = some (before, after) →
      after = before ∨ after = kernel.version := by
    intro event member before after move
    have kept := events event member
    cases event with
    | entered thread arguments => cases move
    | exchanged thread first exchange last =>
        cases move
        exact kept
    | returned thread past result => cases move
  refine ⟨holds, (Interleaved.run_changes run settles).1, fun thread call found => ?_,
    fun thread past result member => ?_⟩
  · exact (successes_le kernel _).trans (calls thread call found).along
  · obtain ⟨few, reply, one, same⟩ := events _ member
    exact ⟨(successes_le kernel past).trans few, reply, one, same⟩

/-- What every request is answered with: the version that is loaded, and the merge. -/
def mergeReplies (version : UapiVersion) (modern legacy : MergeReply) :
    ∀ request, Call.Reply request
  | .rgaSingleTaskSubmit _ => default
  | .loadUapiVersion => version
  | .storeUapiVersion _ => ()
  | .modernSyncMerge _ _ _ => modern
  | .legacySyncMerge _ _ _ => legacy
  | .close _ => ()

/-- Two merges on a legacy kernel that both load an unknown version. The first one succeeds, the
second one's ioctl fails, and a third merge finds the version. -/
def legacyMerges : List (InterleavedOp Thread MergeUapi.Merge Call Call.Reply) :=
  let missing : MergeReply := { fence := -1, enotty := true }
  let unknown := mergeReplies .unknown missing { fence := 9 }
  [.enter 0 ("mosaic_array", 5, 6), .enter 1 ("mosaic_array", 7, 8), .answer 0 unknown,
    .answer 1 unknown, .answer 0 unknown, .answer 0 unknown, .answer 1 unknown, .answer 0 unknown,
    .answer 1 (mergeReplies .unknown missing { fence := -1 }), .leave 1, .leave 0,
    .enter 1 ("mosaic_array", 7, 8), .answer 1 (mergeReplies .legacy missing { fence := 10 }),
    .answer 1 (mergeReplies .legacy missing { fence := 10 }), .leave 1]

theorem uapi_cache_settles_legacy :
    ∃ trace state, Machine.Run MergeUapi.legacy.step MergeUapi.start trace state ∧
      state.shared = .legacy ∧ trace.length = 15 ∧ changes trace ≤ 1 := by
  have run := Machine.Run.of_exec MergeUapi.legacy.step MergeUapi.start legacyMerges rfl
  exact ⟨_, _, run, rfl, rfl, (uapi_cache_settles .legacy _ _ run).2.1⟩

end LibRga.Fenced
