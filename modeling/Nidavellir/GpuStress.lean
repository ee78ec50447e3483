import Nidavellir.Lib.AffinePower
import Nidavellir.Lib.Dispatch
import Nidavellir.VoltageBisection

namespace Nidavellir.GpuStress

open Dispatch AffinePower

def c1 : UInt32 := 1664525
def c2 : UInt32 := 1013904223
def hash1 : UInt32 := 2654435761
def tableInit : UInt32 := 2246822519
def chainCp : UInt32 := 2654435761
def chainCq : UInt32 := 1442695041

/-- One round of `x = x * 1664525u + 1013904223u`. -/
def lcgRound (x : UInt32) : UInt32 := x * c1 + c2

def aluShader (iters n : UInt32) (i : Nat) (data : List UInt32) : List UInt32 :=
  lane n.toNat (fun _ x => lcgRound^[iters.toNat] x) i data

/-- A `vec4<u32>`. -/
structure Vec4 where
  x : UInt32
  y : UInt32
  z : UInt32
  w : UInt32
deriving DecidableEq, Repr

def Vec4.lanes (v : Vec4) : List UInt32 := [v.x, v.y, v.z, v.w]

def vecRound (v : Vec4) : Vec4 := ⟨lcgRound v.x, lcgRound v.y, lcgRound v.z, lcgRound v.w⟩

@[simp] theorem vecRound_x (v : Vec4) : (vecRound v).x = lcgRound v.x := rfl
@[simp] theorem vecRound_y (v : Vec4) : (vecRound v).y = lcgRound v.y := rfl
@[simp] theorem vecRound_z (v : Vec4) : (vecRound v).z = lcgRound v.z := rfl
@[simp] theorem vecRound_w (v : Vec4) : (vecRound v).w = lcgRound v.w := rfl

/-- The integer chains; the float sink is written and never read back. -/
def powerShader (iters n : UInt32) (i : Nat) (data : List Vec4) : List Vec4 :=
  lane n.toNat (fun _ v => vecRound^[iters.toNat] v) i data

def gatherIndex (tableLen i k : UInt32) : UInt32 := (i * hash1 + k * tableInit) % tableLen

def gathered (gathers tableLen : UInt32) (table : List UInt32) (i : UInt32) : UInt32 :=
  (List.range gathers.toNat).foldl
    (fun acc k => acc + table.getD (gatherIndex tableLen i (UInt32.ofNat k)).toNat 0) 0

def memShader (gathers lanes tableLen : UInt32) (table : List UInt32) (i : Nat)
    (data : List UInt32) : List UInt32 :=
  lane lanes.toNat (fun i _ => gathered gathers tableLen table (UInt32.ofNat i)) i data

/-- The body of the fused loop: one round of the lane, and its value added into the streamed
buffer. -/
def fusedRound (bufN : UInt32) (i : Nat) (s : UInt32 × List UInt32) (k : Nat) :
    UInt32 × List UInt32 :=
  let x := lcgRound s.1
  (x, s.2.modify (gatherIndex bufN (UInt32.ofNat i) (UInt32.ofNat k)).toNat (· + x))

def fusedShader (iters n bufN : UInt32) (i : Nat) (s : List UInt32 × List UInt32) :
    List UInt32 × List UInt32 :=
  if n.toNat ≤ i then s
  else
    let t := (List.range iters.toNat).foldl (fusedRound bufN i) (s.1.getD i 0, s.2)
    (s.1.set i t.1, t.2)

/-- `table[i] = i * 2246822519u`, by a grid-stride loop. -/
def tablePattern (i : UInt32) : UInt32 := i * tableInit

/-- `chain[i] = (i * 2654435761u + 1442695041u) & p.mask`, by the same loop. -/
def chainStep (mask i : UInt32) : UInt32 := (i * chainCp + chainCq) &&& mask

def chaseShader (steps mask lanes : UInt32) (chain : List UInt32) (i : Nat)
    (out : List UInt32) : List UInt32 :=
  lane lanes.toNat (fun i _ =>
    (fun idx => chain.getD idx.toNat 0 &&& mask)^[steps.toNat] (chainStep mask (UInt32.ofNat i)))
    i out

/-- `n.div_ceil(64)` workgroups of sixty-four invocations. -/
def invocations (n : UInt32) : Nat := (n.toNat + 63) / 64 * 64

def fillGroups (n : UInt32) : Nat := min ((n.toNat + 63) / 64) 65535

def fillStride (n : UInt32) : UInt32 := UInt32.ofNat (fillGroups n) * 64

/-- A zero-initialised buffer after the dispatch that fills it has completed. -/
structure Filled (len : UInt32) (pattern : UInt32 → UInt32) where
  cells : List UInt32
  pos : 0 < len
  completed : ∃ fuel, Dispatched (List.range (fillGroups len * 64))
    (stridePass len (fillStride len) pattern fuel) (some (List.replicate len.toNat 0)) (some cells)

/-- `(A, C)` of `g` after `h`. -/
def compose (h g : UInt32 × UInt32) : UInt32 × UInt32 := (g.1 * h.1, g.1 * h.2 + g.2)

def lcgPow (n : UInt64) : UInt32 × UInt32 := squaring compose n.toNat (1, 0) (c1, c2)

def composeMod (mask : UInt32) (h g : UInt32 × UInt32) : UInt32 × UInt32 :=
  (g.1 * h.1 &&& mask, (g.1 * h.2 + g.2) &&& mask)

def affinePowMod (n : UInt64) (mask : UInt32) : UInt32 × UInt32 :=
  squaring (composeMod mask) n.toNat (1 &&& mask, 0) (chainCp &&& mask, chainCq &&& mask)

structure StageReport where
  name : String
  result : StabilityResult
  mismatches : UInt32
  elapsedMs : UInt64
deriving DecidableEq, Repr

def verdict (crashed : Bool) (mismatches : UInt32) (mappedOk : Bool) : StabilityResult :=
  if !mappedOk || crashed then .crash
  else if mismatches = 0 then .stable
  else .silentError

/-- The lanes that differ; the counter is a word and wraps. -/
def countMismatches (output expected : List UInt32) : UInt32 :=
  (output.zip expected).foldl (fun n lane => if lane.1 ≠ lane.2 then n + 1 else n) 0

/-- `none` is a buffer that could not be mapped. -/
def readbackCompare (output : Option (List UInt32)) (expected : List UInt32) : UInt32 × Bool :=
  match output with
  | none => (0, false)
  | some output => (countMismatches output expected, true)

/-- What the submission loop leaves behind: its counter, the device-error flag and the clock. -/
structure Submission where
  k : UInt64
  crashed : Bool
  elapsedMs : UInt64
deriving DecidableEq, Repr

/-- What the host sees around one round of the loop. -/
structure Tick where
  elapsedMs : UInt64
  cancelled : Bool
  crashed : Bool
deriving DecidableEq, Repr

/-- The dispatches the loop submits before the deadline, the token or a device error ends it. -/
def dispatches (targetMs : UInt64) : List Tick → Nat
  | [] => 0
  | tick :: rest =>
    if tick.elapsedMs < targetMs && !tick.cancelled then
      if tick.crashed then 1 else dispatches targetMs rest + 1
    else 0

def stageReport (name : String) (expected : List UInt32) (run : Submission)
    (output : Option (List UInt32)) : StageReport :=
  let answer := readbackCompare output expected
  { name := name
    result := verdict run.crashed answer.1 answer.2
    mismatches := answer.1
    elapsedMs := run.elapsedMs }

def aluInput (elements : UInt32) : List UInt32 := (List.range elements.toNat).map UInt32.ofNat

def aluExpected (elements iters : UInt32) (k : UInt64) : List UInt32 :=
  let p := lcgPow (iters.toUInt64 * k)
  (List.range elements.toNat).map fun i => p.1 * UInt32.ofNat i + p.2

def runAlu (name : String) (elements iters : UInt32) (run : Submission)
    (output : Option (List UInt32)) : StageReport :=
  stageReport name (aluExpected elements iters run.k) run output

def s1 : UInt32 := 0x9e3779b9
def s2 : UInt32 := 0x85ebca6b
def s3 : UInt32 := 0xc2b2ae35

def powerSeed (i : UInt32) : Vec4 := ⟨i, i ^^^ s1, i ^^^ s2, i ^^^ s3⟩

def powerInput (elements : UInt32) : List Vec4 :=
  (List.range elements.toNat).map fun i => powerSeed (UInt32.ofNat i)

def powerExpected (elements iters : UInt32) (k : UInt64) : List UInt32 :=
  let p := lcgPow (iters.toUInt64 * k)
  (List.range elements.toNat).flatMap fun i =>
    (powerSeed (UInt32.ofNat i)).lanes.map fun x => p.1 * x + p.2

def runPowerLoad (elements iters : UInt32) (run : Submission) (output : Option (List UInt32)) :
    StageReport :=
  stageReport "PowerLoad" (powerExpected elements iters run.k) run output

/-- The 256 MB table, capped by the device and never below 64 MB, in words. -/
def tableLen (maxBufferBytes : UInt64) : UInt32 :=
  (max (min (256 * 1024 * 1024) maxBufferBytes) (64 * 1024 * 1024) / 4).toUInt32

def gatherExpected (gathers tableLen i : UInt32) : UInt32 :=
  (List.range gathers.toNat).foldl
    (fun acc kk => acc + gatherIndex tableLen i (UInt32.ofNat kk) * tableInit) 0

def memExpected (lanes gathers tableLen : UInt32) : List UInt32 :=
  (List.range lanes.toNat).map fun i => gatherExpected gathers tableLen (UInt32.ofNat i)

def runMemory (name : String) (lanes gathers tableLen : UInt32) (run : Submission)
    (output : Option (List UInt32)) : StageReport :=
  stageReport name (memExpected lanes gathers tableLen) run output

def vramLanes : UInt32 := 262144
def vramGathers : UInt32 := 128

/-- `tables` counts the allocations that went through before the first that did not. -/
def runVramPressure (tables : Nat) (lanes gathers tableLen : UInt32) (run : Submission)
    (output : Option (List UInt32)) : StageReport :=
  if tables = 0 then
    { name := "VramPressure", result := .crash, mismatches := 0, elapsedMs := run.elapsedMs }
  else stageReport "VramPressure" (memExpected lanes gathers tableLen) run output

/-- `while len * 4 > want_bytes && len > 1 << 20 { len >>= 1; }`, from `1 << bits`. -/
def chaseBits (wantBytes : Nat) : Nat → Nat
  | 0 => 0
  | bits + 1 =>
    if 2 ^ (bits + 1) * 4 > wantBytes ∧ 2 ^ (bits + 1) > 2 ^ 20 then chaseBits wantBytes bits
    else bits + 1

def chaseExpected (lanes steps mask : UInt32) : List UInt32 :=
  let p := affinePowMod steps.toUInt64 mask
  (List.range lanes.toNat).map fun lane =>
    (p.1 * chainStep mask (UInt32.ofNat lane) + p.2) &&& mask

def chaseName (len : UInt32) : String :=
  "Mem chase (" ++ toString (len.toUInt64 * 4 / (1024 * 1024)) ++ " MB)"

def runMemChase (lanes steps len : UInt32) (run : Submission) (output : Option (List UInt32)) :
    StageReport :=
  stageReport (chaseName len) (chaseExpected lanes steps (len - 1)) run output

def saturatingAdd (x y : UInt32) : UInt32 := if x + y < x then 0xffffffff else x + y

def runCombined (fusedN fusedIters lanes steps mask : UInt32) (run : Submission)
    (fusedOutput chaseOutput : Option (List UInt32)) : StageReport :=
  let fused := readbackCompare fusedOutput (aluExpected fusedN fusedIters run.k)
  let chase := readbackCompare chaseOutput (chaseExpected lanes steps mask)
  let mismatches := saturatingAdd fused.1 chase.1
  { name := "Combined (core+mem)"
    result := verdict run.crashed mismatches (fused.2 && chase.2)
    mismatches := mismatches
    elapsedMs := run.elapsedMs }

end Nidavellir.GpuStress
