import SoapySidekiq.Foundations.Ledger
import SoapySidekiq.Tx.WriteCall

/-! # The memory of TX blocks

`TxBlockPool.hpp`. The pool and every context in flight share the ownership of a block, which is freed
with the last of them. A pool is created together with a completion state, so a block is named by that
state and its place, like the context that retains it. -/
set_option autoImplicit false

namespace SoapySidekiq

/-! ## The constructor of a pool -/

/-- How the allocation of one block ends: with an owner in the pool, with a null block, or with a block
whose shared owner cannot be allocated. -/
inductive BlockAllocation where
  | owned
  | null
  | unowned
deriving DecidableEq, Repr

/-- How the constructor ends, with the blocks that it has allocated and freed by then. -/
structure PoolConstruction where
  result : Except Exception Unit
  allocated : List ℕ
  freed : List ℕ

namespace TxBlockPool

/-- The loop of the constructor, behind `i` blocks that the pool owns. An exception destroys the owner
at hand and then those in the pool. -/
def fill (allocate : ℕ → BlockAllocation) : ℕ → ℕ → PoolConstruction
  | 0, i => ⟨.ok (), List.range i, []⟩
  | remaining + 1, i =>
    match allocate i with
    | .owned => fill allocate remaining (i + 1)
    | .null => ⟨.error .badAlloc, List.range i, List.range i⟩
    | .unowned => ⟨.error .badAlloc, List.range (i + 1), i :: List.range i⟩

def construct (allocate : ℕ → BlockAllocation) (count samples : ℕ) : PoolConstruction :=
  if count = 0 ∨ samples = 0 then
    ⟨.error (.invalidArgument "TX block count and sample count must be positive"), [], []⟩
  else fill allocate count 0

theorem fill_unwinds (allocate : ℕ → BlockAllocation) (remaining i : ℕ) :
    match (fill allocate remaining i).result with
    | .ok () => (fill allocate remaining i).allocated = List.range (i + remaining) ∧
        (fill allocate remaining i).freed = []
    | .error _ => (fill allocate remaining i).freed.Perm (fill allocate remaining i).allocated := by
  induction remaining generalizing i with
  | zero => exact ⟨rfl, rfl⟩
  | succ remaining ih =>
    rw [fill]
    cases allocate i with
    | owned =>
      rw [show i + (remaining + 1) = i + 1 + remaining by omega]
      exact ih (i + 1)
    | null => exact .refl _
    | unowned =>
      rw [List.range_succ]
      exact (List.perm_append_singleton i (List.range i)).symm

/-- A pool that is constructed owns all its blocks, and a constructor that throws frees what it has
allocated. -/
theorem construct_unwinds (allocate : ℕ → BlockAllocation) (count samples : ℕ) :
    match (construct allocate count samples).result with
    | .ok () => (construct allocate count samples).allocated = List.range count ∧
        (construct allocate count samples).freed = []
    | .error _ =>
      (construct allocate count samples).freed.Perm (construct allocate count samples).allocated := by
  unfold construct
  split_ifs with h
  · exact .refl _
  · simpa using fill_unwinds allocate count 0

end TxBlockPool

/-! ## References -/

namespace TxDevice

/-- The blocks that the pool owns. -/
def pooledBlocks (d : TxDevice) : List TxSendContext :=
  if d.txBlocks.isSome then (List.range d.config.txBufferCount).map (.mk d.txCompletion) else []

/-- Somebody owns the block. -/
def Retains (d : TxDevice) (c : TxSendContext) : Prop := c ∈ d.pooledBlocks ∨ c ∈ d.inFlight

theorem mem_pooledBlocks {d : TxDevice} {c : TxSendContext} :
    c ∈ d.pooledBlocks ↔ d.txBlocks.isSome = true ∧ c.completion = d.txCompletion ∧
      c.txIndex < d.config.txBufferCount := by
  rcases c with ⟨completion, txIndex⟩
  unfold pooledBlocks
  split
  · next h =>
    simp only [List.mem_map, List.mem_range, TxSendContext.mk.injEq, h, true_and]
    constructor
    · rintro ⟨i, hi, rfl, rfl⟩
      exact ⟨rfl, hi⟩
    · rintro ⟨rfl, hi⟩
      exact ⟨txIndex, hi, rfl, rfl⟩
  · next h => simp [h]

theorem nodup_pooledBlocks (d : TxDevice) : d.pooledBlocks.Nodup := by
  unfold pooledBlocks
  split
  · exact List.nodup_range.map fun i j h => (TxSendContext.mk.injEq .. ▸ h).2
  · exact List.nodup_nil

theorem pooledBlocks_congr {d d' : TxDevice} (hblocks : d'.txBlocks.isSome = d.txBlocks.isSome)
    (hcompletion : d'.txCompletion = d.txCompletion) (hconfig : d'.config = d.config) :
    d'.pooledBlocks = d.pooledBlocks := by
  unfold pooledBlocks
  rw [hblocks, hcompletion, hconfig]

theorem pooledBlocks_none {d : TxDevice} (h : d.txBlocks = none) : d.pooledBlocks = [] := by
  unfold pooledBlocks
  rw [h]
  rfl

/-- The pool that `initializeTxBuffers` builds owns what was allocated, unless the constructor throws:
then nothing is left of it. -/
def Builds (d : TxDevice) (pool : PoolConstruction) : Prop :=
  match pool.result with
  | .ok () => d.initializeTxBuffers.pooledBlocks = pool.allocated.map (.mk d.completions.length) ∧
      pool.freed = []
  | .error _ => pool.freed.Perm pool.allocated

theorem initializeTxBuffers_builds (d : TxDevice) (allocate : ℕ → BlockAllocation) :
    d.Builds (TxBlockPool.construct allocate d.config.txBufferCount d.config.currentTxBlockSize) := by
  have hunwinds := TxBlockPool.construct_unwinds allocate d.config.txBufferCount
    d.config.currentTxBlockSize
  unfold Builds
  split <;> rename_i hresult <;> rw [hresult] at hunwinds
  · exact ⟨by rw [hunwinds.1]; rfl, hunwinds.2⟩
  · exact hunwinds

end TxDevice

/-- What a step does to the owners of blocks: the blocks that it allocates and those that it frees. -/
inductive BlockStep (d : TxDevice) :
    List TxSendContext → List TxSendContext → TxDevice → Prop where
  | kept (d' : TxDevice) (hpool : d'.pooledBlocks = d.pooledBlocks) (hflight : d'.inFlight = d.inFlight) :
      BlockStep d [] [] d'
  | accepted (d' : TxDevice) (c : TxSendContext) (hpool : d'.pooledBlocks = d.pooledBlocks)
      (hc : c ∈ d.pooledBlocks) (hflight : d'.inFlight = d.inFlight ++ [c]) : BlockStep d [] [] d'
  | completed (d' : TxDevice) (index : ℕ) (c : TxSendContext) (hc : d.inFlight[index]? = some c)
      (hpool : d'.pooledBlocks = d.pooledBlocks) (hflight : d'.inFlight = d.inFlight.eraseIdx index) :
      BlockStep d [] (if c ∈ d.pooledBlocks then [] else [c]) d'
  | dropped (d' : TxDevice) (hpool : d'.pooledBlocks = []) (hflight : d'.inFlight = d.inFlight) :
      BlockStep d [] (d.pooledBlocks.filter (· ∉ d.inFlight)) d'
  | allocated (d' : TxDevice) (hnone : d.pooledBlocks = []) (hflight : d'.inFlight = d.inFlight)
      (hnew : ∀ c ∈ d'.pooledBlocks, c.completion = d.completions.length)
      (hlength : d.completions.length < d'.completions.length) : BlockStep d d'.pooledBlocks [] d'

/-- A step keeps the ledger balanced, as no two contexts in flight share a block. -/
theorem BlockStep.balanced {d d' : TxDevice} {new old : List TxSendContext}
    {l : ResourceLedger TxSendContext} (h : BlockStep d new old d') (hl : l.Balanced d.Retains)
    (hflight : d.inFlight.Nodup) (holder : ∀ c ∈ l.acquired, c.completion < d.completions.length) :
    (l.post new old).Balanced d'.Retains := by
  cases h with
  | kept _ hpool hflight' =>
    refine hl.post List.nodup_nil (by simp) List.nodup_nil (by simp) fun c => ?_
    simp [TxDevice.Retains, hpool, hflight']
  | accepted _ c hpool hc hflight' =>
    refine hl.post List.nodup_nil (by simp) List.nodup_nil (by simp) fun e => ?_
    simp only [TxDevice.Retains, hpool, hflight', List.mem_append, List.mem_singleton,
      List.not_mem_nil, or_false, not_false_eq_true, and_true]
    constructor
    · rintro (h | h | rfl)
      exacts [.inl h, .inr h, .inl hc]
    · rintro (h | h)
      exacts [.inl h, .inr (.inl h)]
  | completed _ index c hc hpool hflight' =>
    have hmem := List.mem_of_getElem? hc
    have herased (e : TxSendContext) : e ∈ d'.inFlight ↔ e ∈ d.inFlight ∧ e ≠ c := by
      obtain ⟨hlt, rfl⟩ := List.getElem?_eq_some_iff.mp hc
      rw [hflight', ← hflight.erase_getElem index hlt, hflight.mem_erase_iff, and_comm]
    refine hl.post List.nodup_nil (by simp) (by split <;> simp) ?_ fun e => ?_
    · intro e he
      split at he
      · cases he
      · exact .inr (List.mem_singleton.mp he ▸ hmem)
    · simp only [TxDevice.Retains, hpool, herased, List.not_mem_nil, or_false]
      split
      · next hpooled => grind
      · next hpooled => grind
  | dropped _ hpool hflight' =>
    refine hl.post List.nodup_nil (by simp) (d.nodup_pooledBlocks.filter _) ?_ fun e => ?_
    · exact fun e he => .inl (List.mem_filter.mp he).1
    · simp only [TxDevice.Retains, hpool, hflight', List.mem_filter, decide_eq_true_eq,
        List.not_mem_nil, false_or, or_false]
      grind
  | allocated _ hnone hflight' hnew hlength =>
    refine hl.post d'.nodup_pooledBlocks ?_ List.nodup_nil (by simp) fun e => ?_
    · exact fun c hc hmem => absurd (hnew c hc) (Nat.ne_of_lt (holder c hmem))
    · simp only [TxDevice.Retains, hnone, hflight', List.not_mem_nil, false_or, not_false_eq_true,
        and_true]
      exact or_comm

/-! ## Steps of the system -/

/-- What the lifecycle does to the pool: it leaves it alone, destroys it with its stream, or builds it. -/
theorem LifecycleMove.poolStep {free : Mutex → Bool} {d : TxDevice} {pc : TxLifecyclePc}
    {step : TxLifecycleStep} (h : LifecycleMove free d pc step) :
    (step.device.txBlocks = d.txBlocks ∧ step.pc ≠ .destroyed ∧
      ((step.device.activeTxStream = d.activeTxStream ∧ ∀ handle, pc ≠ .publishing handle) ∨
        step.device.activeTxStream.isSome = true)) ∨
    step.device.txBlocks = none ∨
    ∃ handle, pc = .allocating handle ∧ step.device = d.initializeTxBuffers ∧
      step.pc = .publishing handle := by
  have hstopped : ∀ (d : TxDevice) caller status,
      ((d.stopped caller status).device.txBlocks = d.txBlocks ∧
        (d.stopped caller status).pc ≠ .destroyed ∧
        (d.stopped caller status).device.activeTxStream = d.activeTxStream) ∨
      (d.stopped caller status).device.txBlocks = none := by
    intro d caller status
    unfold TxDevice.stopped
    cases caller with
    | deactivate => exact .inl ⟨rfl, nofun, rfl⟩
    | close =>
      dsimp only
      split
      · exact .inl ⟨rfl, nofun, rfl⟩
      · exact .inr rfl
    | destroy => exact .inr rfl
  cases h with
  | configured onPps txHandle call rest =>
    cases rest <;> exact .inl ⟨rfl, nofun, .inl ⟨rfl, nofun⟩⟩
  | unneeded caller | unstopped caller | stopped caller =>
    rcases hstopped _ _ _ with ⟨hblocks, hpc, htoken⟩ | hnone
    · exact .inl ⟨hblocks, hpc, .inl ⟨htoken, nofun⟩⟩
    · exact .inr (.inl hnone)
  | allocated handle => exact .inr (.inr ⟨handle, rfl, rfl, rfl⟩)
  | published handle => exact .inl ⟨rfl, nofun, .inr rfl⟩
  | _ => exact .inl ⟨rfl, nofun, .inl ⟨rfl, nofun⟩⟩

namespace TxSystem

/-- The blocks that a step allocates: `initializeTxBuffers` builds a pool. -/
def acquiredBlocks (s t : TxSystem) : TxAction → List TxSendContext
  | .lifecycle _ =>
    match s.lifecycle with
    | .allocating _ => t.device.pooledBlocks
    | _ => []
  | _ => []

/-- The blocks that a step frees: a callback ends and destroys its context, or the pool is destroyed. -/
def releasedBlocks (s t : TxSystem) : TxAction → List TxSendContext
  | .complete index =>
    match s.device.inFlight[index]? with
    | some context => if context ∈ s.device.pooledBlocks then [] else [context]
    | none => []
  | .lifecycle _ =>
    if s.device.txBlocks.isSome && t.device.txBlocks.isNone then
      s.device.pooledBlocks.filter (· ∉ s.device.inFlight)
    else []
  | _ => []

/-- What the lifecycle knows about the pool: it lives with the stream, and not beyond the end. -/
structure Pooled (s : TxSystem) : Prop where
  token : s.device.txBlocks.isSome = true →
    s.device.activeTxStream.isSome = true ∨ ∃ handle, s.lifecycle = .publishing handle
  gone : s.lifecycle = .destroyed → s.device.txBlocks = none

theorem isSome_of_blockCount {d d' : TxDevice} (h : CallFrame d d') :
    d'.txBlocks.isSome = d.txBlocks.isSome := by
  simpa using congrArg Option.isSome h.blockCount

theorem CallFrame.pooledBlocks {d d' : TxDevice} (h : CallFrame d d') :
    d'.pooledBlocks = d.pooledBlocks :=
  TxDevice.pooledBlocks_congr (isSome_of_blockCount h) h.txCompletion h.config

theorem Pooled.notify {s : TxSystem} (h : s.Pooled) (wake : Wake) : (s.notify wake).Pooled := by
  obtain ⟨htoken, hgone⟩ := h
  cases wake with
  | nobody | cv => exact ⟨htoken, hgone⟩
  | changed =>
    refine ⟨fun hblocks => ?_, fun hpc => hgone ?_⟩
    · rcases htoken hblocks with hactive | ⟨handle, hpc⟩
      · exact .inl hactive
      · exact .inr ⟨handle, by simp [TxSystem.notify, hpc]⟩
    · simp only [TxSystem.notify] at hpc
      split at hpc
      · cases hpc
      · exact hpc

theorem Pooled.frame {s t : TxSystem} (h : s.Pooled) (hframe : CallFrame s.device t.device)
    (hlifecycle : t.lifecycle = s.lifecycle) : t.Pooled := by
  refine ⟨fun hblocks => ?_, fun hpc => ?_⟩
  · rw [isSome_of_blockCount hframe] at hblocks
    rw [hframe.activeTxStream, hlifecycle]
    exact h.token hblocks
  · have hnone := h.gone (hlifecycle ▸ hpc)
    have hcount := isSome_of_blockCount hframe
    rw [hnone] at hcount
    exact Option.isNone_iff_eq_none.mp (by simpa using hcount)

/-- A step of the device that keeps the pool and moves no context. -/
theorem kept_step {d d' : TxDevice} (h : CallFrame d d') (hflight : d'.inFlight = d.inFlight) :
    BlockStep d [] [] d' :=
  .kept d' (CallFrame.pooledBlocks h) hflight

/-- A call that holds a slot holds a block of the pool. -/
theorem held_pooled {s : TxSystem} {w : Writer} (hs : s.Admission) (hslots : s.Slots)
    (hw : w ∈ s.writers) (hholds : w.holdsSlot = true) : w.slot ∈ s.device.pooledBlocks := by
  obtain ⟨id, hid⟩ := List.getElem?_of_mem hw
  have hadmitted := Writer.pastGate_admitted (Writer.holdsSlot_pastGate hholds)
  obtain ⟨-, hblocks, hindex⟩ :=
    hs.standing.pool (hs.standing.live (.inr (.inl (hs.writer_pos hid hadmitted)))).2
  rw [(hslots.placed w hw hholds).1]
  refine TxDevice.mem_pooledBlocks.mpr ⟨?_, rfl, hindex⟩
  cases hpool : s.device.txBlocks with
  | none => simp [hpool] at hblocks
  | some blocks => rfl

/-- A context that a call hands over names the block that the call holds. -/
theorem accepted_pooled {s : TxSystem} {id : ℕ} {w : Writer} (hs : s.Admission) (hslots : s.Slots)
    (hw : s.writers[id]? = some w) (hpc : w.pc = .transmitting) :
    w.context ∈ s.device.pooledBlocks := by
  have hmem := List.mem_of_getElem? hw
  have hholds : w.holdsSlot = true := by simp [Writer.holdsSlot, hpc]
  rw [(hslots.placed w hmem hholds).2 (by simp [hpc])]
  exact held_pooled hs hslots hmem hholds

theorem WriterMove.inFlight {d d' : TxDevice} {id : ℕ} {w w' : Writer} (h : WriterMove d id w d' w') :
    d'.inFlight = d.inFlight ∨ (w.pc = .transmitting ∧ d'.inFlight = d.inFlight ++ [w.context]) := by
  cases h with
  | accepted hpc => exact .inr ⟨hpc, rfl⟩
  | submitted d' hpc hfill =>
    subst hfill
    exact .inl rfl
  | _ => exact .inl rfl

/-- While a pool is being allocated there is none. -/
theorem Pooled.allocating {s : TxSystem} (h : s.Pooled) (hs : s.Admission) {handle : TxStreamHandle}
    (hpc : s.lifecycle = .allocating handle) : s.device.txBlocks = none := by
  have hplace := hs.standing.place
  rw [hpc] at hplace
  cases hblocks : s.device.txBlocks with
  | none => rfl
  | some blocks =>
    rcases h.token (by rw [hblocks]; rfl) with htoken | ⟨handle, hpc'⟩
    · rw [show s.device.activeTxStream = none from hplace] at htoken
      cases htoken
    · rw [hpc] at hpc'
      cases hpc'

theorem lifecycle_blocks {s : TxSystem} (hs : s.Admission) (hpooled : s.Pooled)
    (input : TxLifecycleInput) {step : TxLifecycleStep}
    (hmove : LifecycleMove s.free s.device s.lifecycle step) :
    BlockStep s.device
      (s.acquiredBlocks ((s.setLifecycle step).notify step.wake) (.lifecycle input))
      (s.releasedBlocks ((s.setLifecycle step).notify step.wake) (.lifecycle input)) step.device := by
  have hflight : step.device.inFlight = s.device.inFlight := by
    rcases hmove.slots with ⟨-, hflight, -⟩ | ⟨handle, -, hdevice⟩
    · exact hflight
    · rw [hdevice]
      rfl
  simp only [acquiredBlocks, releasedBlocks, notify_device, setLifecycle_device]
  rcases hmove.poolStep with ⟨hblocks, -, -⟩ | hnone | ⟨handle, hpc, hdevice, -⟩
  · have hpool : step.device.pooledBlocks = s.device.pooledBlocks := by
      rcases hmove.slots with ⟨-, -, hcompletion, -⟩ | ⟨handle, hpc, hdevice⟩
      · exact TxDevice.pooledBlocks_congr (by rw [hblocks]) hcompletion hmove.config
      · rw [hpooled.allocating hs hpc, hdevice] at hblocks
        cases hblocks
    have hreleased : (s.device.txBlocks.isSome && step.device.txBlocks.isNone) = false := by
      rw [hblocks]
      cases s.device.txBlocks <;> rfl
    rw [hreleased]
    split
    · next handle hpc =>
      have hempty := TxDevice.pooledBlocks_none (hpooled.allocating hs hpc)
      rw [hpool, hempty]
      exact .kept _ hpool hflight
    · exact .kept _ hpool hflight
  · have hempty := TxDevice.pooledBlocks_none hnone
    have hacquired : (match s.lifecycle with
        | .allocating _ => step.device.pooledBlocks
        | _ => []) = [] := by
      split
      · exact hempty
      · rfl
    rw [hacquired, hnone]
    cases hblocks : s.device.txBlocks with
    | none => exact .kept _ (hempty.trans (TxDevice.pooledBlocks_none hblocks).symm) hflight
    | some blocks => exact .dropped _ hempty hflight
  · have hnone := hpooled.allocating hs hpc
    rw [hpc, hnone]
    refine .allocated _ (TxDevice.pooledBlocks_none hnone) hflight (fun c hc => ?_) ?_
    · rw [hdevice] at hc
      exact (TxDevice.mem_pooledBlocks.mp hc).2.1
    · simp [hdevice, TxDevice.initializeTxBuffers]

theorem TxStep.blocks {s t : TxSystem} {a : TxAction} (h : TxStep s a t) (hs : s.Admission)
    (hslots : s.Slots) (hpooled : s.Pooled) :
    BlockStep s.device (s.acquiredBlocks t a) (s.releasedBlocks t a) t.device := by
  cases h with
  | writeStream | readStreamStatus => exact .kept _ rfl rfl
  | writer id input w w' d' hw hmove =>
    rw [notify_device]
    rcases WriterMove.inFlight hmove with hflight | ⟨hpc, hflight⟩
    · exact kept_step hmove.frame hflight
    · exact .accepted _ w.context (CallFrame.pooledBlocks hmove.frame)
        (accepted_pooled hs hslots hw hpc) hflight
  | poller id input p p' d' hp hmove =>
    rw [notify_device]
    obtain ⟨_, _, _, heq⟩ := hmove.changes
    exact kept_step hmove.frame (by rw [setPoller_device, heq])
  | pps result d' wake hmove =>
    rw [notify_device]
    cases hmove <;> exact .kept _ rfl rfl
  | complete index context hcontext =>
    obtain ⟨completions, toNotify, heq⟩ := callBack_changes s.device index context
    simp only [acquiredBlocks, releasedBlocks, hcontext]
    exact .completed _ index context hcontext
      (CallFrame.pooledBlocks (s.device.callBack_frame index context)) (by rw [setDevice_device, heq])
  | notifyCompletion index wake =>
    rw [notify_device]
    exact .kept _ rfl rfl
  | call call step hidle hbegin hmove =>
    obtain ⟨-, hflight, hcompletion, -⟩ := hmove.slots
    exact .kept _ (TxDevice.pooledBlocks_congr (congrArg Option.isSome hmove.pool.1) hcompletion
      hmove.config) hflight
  | lifecycle input step hmove =>
    have hstep := lifecycle_blocks hs hpooled input hmove
    rwa [← setLifecycle_device s step, ← notify_device (s.setLifecycle step) step.wake] at hstep

/-- The beginning of a call leaves the stream alone. -/
theorem BeginMove.token {d : TxDevice} {step : TxLifecycleStep} (h : BeginMove d step) :
    step.device.activeTxStream = d.activeTxStream ∧ step.pc ≠ .destroyed := by
  cases h with
  | activates => cases d.activationCalls _ <;> exact ⟨rfl, nofun⟩
  | _ => exact ⟨rfl, nofun⟩

theorem TxStep.pooled {s t : TxSystem} {a : TxAction} (h : TxStep s a t) (hpooled : s.Pooled) :
    t.Pooled := by
  cases h with
  | writeStream | readStreamStatus => exact ⟨hpooled.token, hpooled.gone⟩
  | writer id input w w' d' hw hmove =>
    exact (hpooled.frame (t := s.setWriter id d' w') hmove.frame rfl).notify _
  | poller id input p p' d' hp hmove =>
    exact (hpooled.frame (t := s.setPoller id d' p') hmove.frame rfl).notify _
  | pps result d' wake hmove =>
    have hset : (s.setDevice d').Pooled := by
      cases hmove <;> exact ⟨hpooled.token, hpooled.gone⟩
    exact hset.notify _
  | complete index context hcontext =>
    exact hpooled.frame (s.device.callBack_frame index context) rfl
  | notifyCompletion index wake =>
    have hset : (s.setDevice { s.device with
        toNotify := s.device.toNotify.eraseIdx index }).Pooled := ⟨hpooled.token, hpooled.gone⟩
    exact hset.notify _
  | call call step hidle hbegin hmove =>
    obtain ⟨htoken, hpc⟩ := BeginMove.token hmove
    refine ⟨fun hblocks => .inl ?_, fun hgone => absurd hgone hpc⟩
    rw [setLifecycle_device, hmove.pool.1] at hblocks
    rw [setLifecycle_device, htoken]
    rcases hpooled.token hblocks with hactive | ⟨handle, hpublishing⟩
    · exact hactive
    · rw [hidle] at hpublishing
      cases hpublishing
  | lifecycle input step hmove =>
    refine Pooled.notify ?_ _
    rcases hmove.poolStep with ⟨hblocks, hpc, htoken⟩ | hnone | ⟨handle, -, -, hpc⟩
    · refine ⟨fun hpool => .inl ?_, fun hgone => absurd hgone hpc⟩
      rcases htoken with ⟨htoken, hpublishing⟩ | htoken
      · rw [setLifecycle_device, hblocks] at hpool
        rw [setLifecycle_device, htoken]
        rcases hpooled.token hpool with hactive | ⟨handle, hpc'⟩
        · exact hactive
        · exact absurd hpc' (hpublishing handle)
      · exact htoken
    · exact ⟨fun hpool => by simp [hnone] at hpool, fun _ => hnone⟩
    · exact ⟨fun _ => .inr ⟨handle, hpc⟩, fun hgone => by
        rw [setLifecycle_lifecycle, hpc] at hgone
        cases hgone⟩

end TxSystem

/-! ## Runs -/

/-- The system and the ledger of its blocks. -/
structure AccountedTx where
  system : TxSystem
  ledger : ResourceLedger TxSendContext

namespace AccountedTx

def next (s : AccountedTx) (a : TxAction) : Option AccountedTx :=
  (s.system.next a).map fun t =>
    ⟨t, s.ledger.post (s.system.acquiredBlocks t a) (s.system.releasedBlocks t a)⟩

def create (config : TxConfiguration) : AccountedTx := ⟨.create config, [], []⟩

structure Accounted (s : AccountedTx) : Prop where
  admission : s.system.Admission
  serial : s.system.Serial
  slots : s.system.Slots
  pooled : s.system.Pooled
  older : ∀ c ∈ s.ledger.acquired, c.completion < s.system.device.completions.length
  balanced : s.ledger.Balanced s.system.device.Retains

/-- No two contexts in flight name the same block. -/
theorem Accounted.inFlight {s : AccountedTx} (h : s.Accounted) : s.system.device.inFlight.Nodup := by
  refine List.nodup_iff_count_le_one.mpr fun c => ?_
  have howned := h.slots.owned c
  have hle := Bool.toNat_le (s.system.device.slotOf c)
  unfold TxSystem.owners at howned
  omega

/-- Completion states are only added. -/
theorem completions_step {s t : TxSystem} {a : TxAction} (h : TxStep s a t) :
    s.device.completions.length ≤ t.device.completions.length := by
  have hframe {d d' : TxDevice} (h : CallFrame d d') : d.completions.length ≤ d'.completions.length := by
    have hcounts := congrArg List.length h.slotCounts
    simp only [List.length_map] at hcounts
    exact Nat.le_of_eq hcounts.symm
  cases h with
  | writeStream | readStreamStatus => exact Nat.le_refl _
  | writer _ _ _ _ _ _ hmove => rw [TxSystem.notify_device]; exact hframe hmove.frame
  | poller _ _ _ _ _ _ hmove => rw [TxSystem.notify_device]; exact hframe hmove.frame
  | pps _ _ _ hmove => rw [TxSystem.notify_device]; cases hmove <;> exact Nat.le_refl _
  | complete index context => exact hframe (s.device.callBack_frame index context)
  | notifyCompletion => rw [TxSystem.notify_device]; exact Nat.le_refl _
  | call _ _ _ _ hmove => exact Nat.le_of_eq (congrArg List.length hmove.slots.1).symm
  | lifecycle _ _ hmove =>
    rw [TxSystem.notify_device]
    rcases hmove.slots with ⟨hcompletions, -⟩ | ⟨handle, -, hdevice⟩
    · exact Nat.le_of_eq (congrArg List.length hcompletions).symm
    · simp [hdevice, TxDevice.initializeTxBuffers]

theorem Accounted.step {s t : AccountedTx} {a : TxAction} (h : s.Accounted)
    (hserial : s.system.serialized a = true) (hnext : s.next a = some t) : t.Accounted := by
  obtain ⟨t', hsystem, rfl⟩ := Option.map_eq_some_iff.mp hnext
  have hstep := step_of_next hsystem
  have hblocks := TxSystem.TxStep.blocks hstep h.admission h.slots h.pooled
  refine ⟨TxSystem.admission_step h.admission hstep, TxSystem.serial_step h.serial hserial hstep,
    TxSystem.slots_step h.slots h.admission h.serial hstep, TxSystem.TxStep.pooled hstep h.pooled,
    fun c hc => ?_, hblocks.balanced h.balanced h.inFlight h.older⟩
  rcases List.mem_append.mp hc with hold | hnew
  · exact Nat.lt_of_lt_of_le (h.older c hold) (completions_step hstep)
  · generalize s.system.acquiredBlocks t' a = new, s.system.releasedBlocks t' a = old at hblocks hnew
    cases hblocks with
    | allocated _ hnone hflight hnumber hlength => exact hnumber c hnew ▸ hlength
    | _ => cases hnew

theorem accounted_create (config : TxConfiguration) : (create config).Accounted where
  admission := TxSystem.admission_create config
  serial := fun i j w v hw => by simp [create, TxSystem.create] at hw
  slots := by
    have hnil : Transition.Along TxSystem.next (fun u a => u.serialized a = true)
      (TxSystem.create config) [] := trivial
    exact (TxSystem.slots_run hnil rfl).2.2
  pooled := ⟨by simp [create, TxSystem.create, TxDevice.create], by simp [create, TxSystem.create]⟩
  older := by simp [create]
  balanced := ResourceLedger.balanced_empty fun c => by
    simp [create, TxSystem.create, TxDevice.create, TxDevice.Retains, TxDevice.pooledBlocks]

/-- While the callers serialize their writes, every block that has been allocated is owned by the pool
or by an accepted send, and not yet freed, or has been freed once. The block that a write fills and
submits is in the pool. When the device is destroyed and every send completed, all blocks are freed. A
pool whose constructor throws has freed what it had allocated. -/
theorem tx_blocks_freed_once {config : TxConfiguration} {actions : List TxAction} {s : AccountedTx}
    (hserial : Transition.Along next (fun u a => u.system.serialized a = true) (create config) actions)
    (hrun : Transition.run next (create config) actions = some s) :
    s.ledger.Balanced s.system.device.Retains ∧
    (∀ w ∈ s.system.writers, w.holdsSlot = true → w.slot ∈ s.system.device.pooledBlocks) ∧
    (s.system.lifecycle = .destroyed → s.system.device.inFlight = [] →
      s.ledger.released.Perm s.ledger.acquired) ∧
    ∀ allocate, s.system.device.Builds (TxBlockPool.construct allocate
      s.system.device.config.txBufferCount s.system.device.config.currentTxBlockSize) := by
  have h : s.Accounted := Transition.along_invariant (I := Accounted)
    (fun _ _ _ h ha hnext => h.step ha hnext) (accounted_create config) hserial hrun
  refine ⟨h.balanced, fun w hw hholds => TxSystem.held_pooled h.admission h.slots hw hholds, ?_,
    s.system.device.initializeTxBuffers_builds⟩
  intro hgone hflight
  refine h.balanced.settled fun c hretains => ?_
  rcases hretains with hpooled | hmem
  · rw [TxDevice.pooledBlocks_none (h.pooled.gone hgone)] at hpooled
    cases hpooled
  · rw [hflight] at hmem
    cases hmem

/-- A stream that is closed while one of its two blocks is in flight, and the destruction of the device
before that block comes back. -/
def lateBlock : List TxAction :=
  SmallTx.setup ++ SmallTx.activate ++
    .writeStream ⟨100, some fun i => UInt8.ofNat i, 2, 0, 0⟩ :: List.replicate 9 (.writer 0 .run) ++
    [.writer 0 .accept, .writer 0 (.sdk 0)] ++ List.replicate 4 (.writer 0 .run) ++
    SmallTx.drain ++ [.lifecycle .run, .lifecycle (.sdk 0), .call (.closeStream 100)] ++
    List.replicate 5 (.lifecycle .run) ++ [.call .destroy] ++ List.replicate 5 (.lifecycle .run) ++
    [.complete 0]

theorem tx_blocks_freed_once_late :
    ∃ s, Transition.run next (create SmallTx.config) lateBlock = some s ∧
      s.ledger = ⟨[⟨1, 0⟩, ⟨1, 1⟩], [⟨1, 1⟩, ⟨1, 0⟩]⟩ ∧ s.ledger.released.Perm s.ledger.acquired := by
  obtain ⟨s, hrun, hchecks⟩ := Option.map_eq_some_iff.mp (show (Transition.run next
    (create SmallTx.config) lateBlock).map (fun s =>
      decide (s.ledger.acquired = [⟨1, 0⟩, ⟨1, 1⟩] ∧ s.ledger.released = [⟨1, 1⟩, ⟨1, 0⟩]) &&
      decide (s.system.lifecycle = .destroyed ∧ s.system.device.inFlight = [])) = some true
    by decide +kernel)
  simp only [Bool.and_eq_true, decide_eq_true_eq] at hchecks
  obtain ⟨⟨hacquired, hreleased⟩, hgone, hflight⟩ := hchecks
  obtain ⟨-, -, hsettled, -⟩ := tx_blocks_freed_once (by decide +kernel) hrun
  refine ⟨s, hrun, ?_, hsettled hgone hflight⟩
  rw [← hacquired, ← hreleased]

end AccountedTx

end SoapySidekiq
