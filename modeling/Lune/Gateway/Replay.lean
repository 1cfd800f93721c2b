import Lune.Gateway.Body
import Lune.Lib.GoReader

/-!
# Bodies that can be read again

`NewReplayBody` of `internal/gateway/body.go` on readers and files: what is read
under the bound for memory, what is left under the bound for the body, and the
temporary file that takes both when the first is too much.

`newReplayBody` of the model of the handler is this on the bounds that the handler
passes.  Here the bounds are `int64`, and `max + 1` is not a bound when `max` is
the greatest one: the body is then read as empty.
-/

namespace Lune.Gateway.Replay

open GoText GoReader Keyed

/-- `ReplayBody`; on disk when it has a path. -/
structure ReplayBody where
  data : Str := []
  path : Str := []
  size : Int

/-- Which operations on the temporary file fail. -/
structure DiskFaults where
  mkdirAll : Bool := false
  createTemp : Bool := false
  write : Bool := false
  copy : Bool := false
  close : Bool := false

/-- The end of `NewReplayBody`: the bytes that were read and the rest of the
reader go to a new file, which is removed again on the ways out. -/
def spill (dir : TempDir) (faults : DiskFaults) (files : Files) (data : Str) (limited : Reader)
    (maxBytes : Int) : Except BodyError ReplayBody × Files :=
  if faults.mkdirAll || faults.createTemp then (.error .other, files)
  else
    let path := dir.createTemp files
    let removed : Files := Table.erase (files.put path data) path
    if faults.write then (.error .other, removed)
    else match limited.readAll with
      | .error _ => (.error .other, removed)
      | .ok more =>
        let size := int64 (data.length + more.length)
        if faults.copy then (.error .other, removed)
        else if maxBytes < size then (.error .tooLarge, removed)
        else if faults.close then (.error .other, removed)
        else (.ok { path := path, size := size }, files.put path (data ++ more))

/-- `NewReplayBody`. -/
def newReplayBody (dir : TempDir) (faults : DiskFaults) (files : Files) (body : Reader)
    (maxBytes memoryBytes : Int) : Except BodyError ReplayBody × Files :=
  let maxBytes := if maxBytes ≤ 0 then 1 else maxBytes
  let memoryBytes := if memoryBytes ≤ 0 then maxBytes else memoryBytes
  let limited := body.limit (int64 (maxBytes + 1))
  match (limited.limit (int64 (memoryBytes + 1))).readAll with
  | .error _ => (.error .other, files)
  | .ok data =>
    if maxBytes < data.length then (.error .tooLarge, files)
    else if (data.length : Int) ≤ memoryBytes then
      (.ok { data := data, size := data.length }, files)
    else spill dir faults files data (limited.drop data.length) maxBytes

/-- `Reader`, and what reading it to its end gives; `none` when the file is gone. -/
def ReplayBody.reader (body : ReplayBody) (files : Files) : Option Str :=
  if body.path = [] then some body.data else files.get? body.path

/-- `Close`. -/
def ReplayBody.close (body : ReplayBody) (files : Files) : ReplayBody × Files :=
  if body.path = [] then (body, files) else ({ body with path := [] }, Table.erase files body.path)

/-! ## What a body comes to -/

/-- What `NewReplayBody` can do: refuse and leave the files as they are, keep the
bytes in memory, or write them to a new file. -/
inductive Outcome (files : Files) (bytes : Str) : Except BodyError ReplayBody × Files → Prop where
  | refused (err : BodyError) : Outcome files bytes (.error err, files)
  | memory : Outcome files bytes (.ok { data := bytes, size := bytes.length }, files)
  | disk (path : Str) (named : path ≠ []) (fresh : files.get? path = none) :
      Outcome files bytes (.ok { path := path, size := bytes.length }, files.put path bytes)

variable {dir : TempDir} {faults : DiskFaults} {files : Files}

/-- Whatever fails, a refusal leaves no file. -/
theorem spill_outcome {data bytes : Str} {limited : Reader} {maxBytes : Int}
    (hsize : data.length + limited.data.length < 2 ^ 63)
    (hbytes : (data.length + limited.data.length : Int) ≤ maxBytes → data ++ limited.data = bytes) :
    Outcome files bytes (spill dir faults files data limited maxBytes) := by
  have hremoved := erase_put (dir.fresh files) data
  have hrefused : ∀ err, Outcome files bytes
      (.error err, Table.erase (files.put (dir.createTemp files) data) (dir.createTemp files)) :=
    fun err => hremoved.symm ▸ .refused err
  unfold spill
  split
  · exact .refused .other
  dsimp only
  split
  · exact hrefused .other
  unfold Reader.readAll
  split
  · exact hrefused .other
  next more hread =>
    split at hread
    · contradiction
    obtain rfl := Except.ok.inj hread
    rw [int64_eq (by omega) (by omega)]
    split
    · exact hrefused .other
    split
    · exact hrefused .tooLarge
    next hfits =>
      split
      · exact hrefused .other
      · rw [← Int.natCast_add, ← List.length_append, hbytes (by omega)]
        exact .disk (dir.createTemp files) (dir.named files) (dir.fresh files)

/-- Writing without a fault. -/
theorem spill_clean {data more : Str} {maxBytes : Int}
    (hsize : data.length + more.length < 2 ^ 63) :
    spill dir {} files data { data := more } maxBytes =
      if maxBytes < data.length + more.length then (.error .tooLarge, files)
      else (.ok { path := dir.createTemp files, size := data.length + more.length },
        files.put (dir.createTemp files) (data ++ more)) := by
  unfold spill
  simp only [erase_put (dir.fresh files), Reader.readAll_of_clean, Bool.or_self,
    Bool.false_eq_true, if_false]
  rw [int64_eq (by omega) (by omega)]

section Bounds

variable {maxBytes memoryBytes : Int} (hmax : 0 < maxBytes) (hmemory : 0 < memoryBytes)
  (hmax' : maxBytes < 2 ^ 63 - 1) (hmemory' : memoryBytes < 2 ^ 63 - 1)

include hmax hmemory hmax' hmemory'

/-- The two bounds: a body that ends before either is kept, one that runs past the
bound for the body is refused at once when that is the lower one, and one that runs
past the bound for memory goes to a file. -/
theorem newReplayBody_eq (body : Reader) :
    newReplayBody dir faults files body maxBytes memoryBytes =
      if (body.data.length : Int) ≤ maxBytes ∧ (body.data.length : Int) ≤ memoryBytes then
        match body.err with
        | some _ => (.error .other, files)
        | none => (.ok { data := body.data, size := body.data.length }, files)
      else if maxBytes ≤ memoryBytes then (.error .tooLarge, files)
      else spill dir faults files (body.data.take (memoryBytes + 1).toNat)
        ((body.limit (maxBytes + 1)).drop (memoryBytes + 1).toNat) maxBytes := by
  have hmax₀ : ¬ maxBytes ≤ 0 := by omega
  have hmemory₀ : ¬ memoryBytes ≤ 0 := by omega
  have hmaxSum : int64 (maxBytes + 1) = maxBytes + 1 := int64_eq (by omega) (by omega)
  have hmemorySum : int64 (memoryBytes + 1) = memoryBytes + 1 := int64_eq (by omega) (by omega)
  unfold newReplayBody
  simp only [if_neg hmax₀, if_neg hmemory₀, hmaxSum, hmemorySum]
  split_ifs with hsmall hle
  · have hlimited : body.limit (maxBytes + 1) = body := Reader.limit_of_lt (by omega)
    rw [hlimited, Reader.limit_of_lt (by omega), Reader.readAll]
    cases body.err with
    | some err => rfl
    | none =>
      dsimp only
      rw [if_neg (by omega), if_pos hsmall.2]
  · -- the bound for the body is reached first
    have hlimited : body.limit (maxBytes + 1) = { data := body.data.take (maxBytes + 1).toNat } :=
      Reader.limit_of_le (by omega)
    rw [hlimited, Reader.limit_clean, List.take_take, Reader.readAll_of_clean]
    dsimp only
    rw [List.length_take, if_pos (by omega)]
  · have hlong : (memoryBytes + 1).toNat ≤ body.data.length := by omega
    have hhead : (body.limit (maxBytes + 1)).limit (memoryBytes + 1) =
        { data := body.data.take (memoryBytes + 1).toNat } := by
      rcases Int.lt_or_le body.data.length (maxBytes + 1) with hlt | hge
      · rw [Reader.limit_of_lt hlt, Reader.limit_of_le (by omega)]
      · rw [Reader.limit_of_le hge, Reader.limit_clean, List.take_take, Nat.min_eq_left (by omega)]
    have hlength : (body.data.take (memoryBytes + 1).toNat).length = (memoryBytes + 1).toNat := by
      rw [List.length_take, Nat.min_eq_left hlong]
    rw [hhead, Reader.readAll_of_clean]
    dsimp only
    rw [hlength, if_neg (by omega), if_neg (by omega)]

/-- Whatever is read and whatever fails, the body is refused without a file or has
just the bytes that were read. -/
theorem newReplayBody_outcome (body : Reader) :
    Outcome files body.data (newReplayBody dir faults files body maxBytes memoryBytes) := by
  rw [newReplayBody_eq hmax hmemory hmax' hmemory']
  split_ifs with hsmall hle
  · cases body.err with
    | some err => exact .refused .other
    | none => exact .memory
  · exact .refused .tooLarge
  · rcases Int.lt_or_le body.data.length (maxBytes + 1) with hlt | hge
    · rw [Reader.limit_of_lt hlt]
      refine spill_outcome ?_ fun _ => List.take_append_drop _ _
      rw [Reader.drop, List.length_take, List.length_drop]
      omega
    · have hlength : (body.data.take (memoryBytes + 1).toNat).length +
          ((body.limit (maxBytes + 1)).drop (memoryBytes + 1).toNat).data.length =
            (maxBytes + 1).toNat := by
        rw [Reader.limit_of_le hge, Reader.drop, List.length_drop, List.length_take, List.length_take]
        omega
      exact spill_outcome (by omega) fun hfits => by omega

/-- What the bounds make of a body when nothing fails. -/
theorem newReplayBody_clean (hle : memoryBytes ≤ maxBytes) (data : Str) :
    newReplayBody dir {} files { data := data } maxBytes memoryBytes =
      if maxBytes < data.length then (.error .tooLarge, files)
      else if (data.length : Int) ≤ memoryBytes then
        (.ok { data := data, size := data.length }, files)
      else (.ok { path := dir.createTemp files, size := data.length },
        files.put (dir.createTemp files) data) := by
  rw [newReplayBody_eq hmax hmemory hmax' hmemory']
  dsimp only
  by_cases hsmall : (data.length : Int) ≤ memoryBytes
  · rw [if_pos ⟨by omega, hsmall⟩, if_neg (by omega), if_pos hsmall]
  rw [if_neg (by omega), if_neg hsmall]
  by_cases hequal : maxBytes ≤ memoryBytes
  · rw [if_pos hequal, if_pos (by omega)]
  -- what was read for memory and what is read after it are the bounded body
  have hwhole : data.take (memoryBytes + 1).toNat ++
      (data.take (maxBytes + 1).toNat).drop (memoryBytes + 1).toNat =
        data.take (maxBytes + 1).toNat := by
    have hsplit := List.take_append_drop (memoryBytes + 1).toNat (data.take (maxBytes + 1).toNat)
    rwa [List.take_take, Nat.min_eq_left (by omega)] at hsplit
  have hlength := congrArg List.length hwhole
  rw [List.length_append, List.length_take (i := (maxBytes + 1).toNat)] at hlength
  rw [if_neg hequal, Reader.limit_clean, Reader.drop]
  dsimp only
  rw [spill_clean (by omega), hwhole]
  by_cases hlong : maxBytes < data.length
  · rw [if_pos hlong, if_pos (by omega)]
  · have hsize : ((data.take (memoryBytes + 1).toNat).length : Int) +
        ((data.take (maxBytes + 1).toNat).drop (memoryBytes + 1).toNat).length = data.length := by
      omega
    rw [if_neg hlong, hsize, if_neg hlong, List.take_of_length_le (by omega)]

end Bounds

/-- A bound of the greatest `int64` is no bound for a reader: nothing is read. -/
theorem newReplayBody_greatest {memoryBytes : Int} (hmemory : 0 < memoryBytes) (body : Reader) :
    newReplayBody dir faults files body (2 ^ 63 - 1) memoryBytes =
      (.ok { data := [], size := 0 }, files) := by
  have hwraps : int64 (2 ^ 63 - 1 + 1) ≤ 0 := by decide
  have hnothing : ∀ n, ({ data := [] } : Reader).limit n = { data := [] } := fun n => by
    rw [Reader.limit_clean, List.take_nil]
  have hmax₀ : ¬ (2 ^ 63 - 1 : Int) ≤ 0 := by decide
  have hmemory₀ : ¬ memoryBytes ≤ 0 := by omega
  have hsmall : (([] : Str).length : Int) ≤ memoryBytes := by
    rw [List.length_nil]
    omega
  unfold newReplayBody
  simp only [if_neg hmax₀, if_neg hmemory₀, Reader.limit_of_nonpos hwraps, hnothing,
    Reader.readAll_of_clean]
  rw [if_neg (by decide), if_pos hsmall]
  rfl

/-! ## Fidelity -/

/-- A body is refused exactly when it is too long, without leaving a file, and is
else replayed by every call of `Reader`, however many there are. -/
structure Faithful (files : Files) (data : Str) (maxBytes : Int)
    (outcome : Except BodyError ReplayBody × Files) : Prop where
  tooLarge : outcome.1 = .error .tooLarge ↔ maxBytes < data.length
  refused : ∀ err, outcome.1 = .error err → err = .tooLarge ∧ outcome.2 = files
  size : ∀ body, outcome.1 = .ok body → body.size = data.length
  replays : ∀ body, outcome.1 = .ok body → ∀ n : Nat,
    (List.range n).map (fun _ => body.reader outcome.2) = List.replicate n (some data)

theorem Outcome.faithful {data : Str} {maxBytes : Int}
    {outcome : Except BodyError ReplayBody × Files} (h : Outcome files data outcome)
    (htooLarge : outcome.1 = .error .tooLarge ↔ maxBytes < data.length)
    (hother : outcome.1 ≠ .error .other) : Faithful files data maxBytes outcome := by
  have hreads : ∀ (body : ReplayBody) (after : Files), body.reader after = some data → ∀ n : Nat,
      (List.range n).map (fun _ => body.reader after) = List.replicate n (some data) := by
    intro body after hread n
    rw [List.map_const', List.length_range, hread]
  cases h with
  | refused err =>
    refine ⟨htooLarge, ?_, ?_, ?_⟩
    · intro err' herr
      obtain rfl := Except.error.inj herr
      cases err with
      | tooLarge => exact ⟨rfl, rfl⟩
      | other => exact absurd rfl hother
    · intro body hbody
      contradiction
    · intro body hbody
      contradiction
  | memory =>
    refine ⟨htooLarge, ?_, ?_, ?_⟩
    · intro err herr
      contradiction
    · intro body hbody
      obtain rfl := Except.ok.inj hbody
      rfl
    · intro body hbody
      obtain rfl := Except.ok.inj hbody
      exact hreads _ _ rfl
  | disk path named _ =>
    refine ⟨htooLarge, ?_, ?_, ?_⟩
    · intro err herr
      contradiction
    · intro body hbody
      obtain rfl := Except.ok.inj hbody
      rfl
    · intro body hbody
      obtain rfl := Except.ok.inj hbody
      exact hreads _ _ ((if_neg named).trans ((GoMap.get?_put files path path data).trans (if_pos rfl)))

/-- Which bodies are replayed faithfully under which bounds. -/
theorem replay_faithful_iff {maxBytes memoryBytes : Int} (hmemory : 0 < memoryBytes)
    (hle : memoryBytes ≤ maxBytes) (hmax : maxBytes < 2 ^ 63) (dir : TempDir) (files : Files)
    (data : Str) :
    Faithful files data maxBytes
        (newReplayBody dir {} files { data := data } maxBytes memoryBytes) ↔
      maxBytes < 2 ^ 63 - 1 ∨ data = [] := by
  by_cases hgreatest : maxBytes < 2 ^ 63 - 1
  · refine iff_of_true ?_ (Or.inl hgreatest)
    rw [newReplayBody_clean (by omega) hmemory hgreatest (by omega) hle]
    split
    next hlong => exact (Outcome.refused .tooLarge).faithful (iff_of_true rfl hlong) (by simp)
    next hfits =>
      split
      · exact Outcome.memory.faithful (iff_of_false (by simp) hfits) (by simp)
      · exact (Outcome.disk _ (dir.named files) (dir.fresh files)).faithful
          (iff_of_false (by simp) hfits) (by simp)
  · obtain rfl : maxBytes = 2 ^ 63 - 1 := by omega
    rw [newReplayBody_greatest hmemory]
    constructor
    · intro h
      have hsize : (0 : Int) = data.length := h.size _ rfl
      exact Or.inr (List.eq_nil_of_length_eq_zero (by omega))
    · rintro (hlt | rfl)
      · exact absurd hlt hgreatest
      · exact Outcome.memory.faithful (iff_of_false (by simp) (by decide)) (by simp)

/-- A body of three bytes with room for one of them in memory. -/
theorem three_bytes_replayed :
    Faithful Table.empty (lit "abc") 3
      (newReplayBody longNames {} Table.empty { data := lit "abc" } 3 1) :=
  (replay_faithful_iff (by decide) (by decide) (by decide) longNames Table.empty (lit "abc")).mpr
    (Or.inl (by decide))

/-- Under the greatest bound one byte is read as none. -/
theorem one_byte_lost :
    ¬ Faithful Table.empty (lit "x") (2 ^ 63 - 1)
      (newReplayBody longNames {} Table.empty { data := lit "x" } (2 ^ 63 - 1) 1) := by
  intro h
  rw [newReplayBody_greatest (by decide)] at h
  have hsize : (0 : Int) = (lit "x").length := h.size _ rfl
  exact absurd hsize (by decide)

/-! ## The model of the handler -/

/-- The end of a body as the model of the handler has it. -/
def outcomeSeen (outcome : Except BodyError ReplayBody × Files) : Except BodyError Gateway.ReplayBody :=
  outcome.1.map fun body =>
    { data := (body.reader outcome.2).getD [], onDisk := decide (body.path ≠ []) }

/-- A reader as the model of the handler has it. -/
def streamSeen (body : Reader) : BodyStream where
  data := body.data
  fails := body.err.isSome

theorem newReplayBody_refines_pos {maxBytes memoryBytes : Nat} (hmax : 0 < maxBytes)
    (hmemory : 0 < memoryBytes) (hmax' : maxBytes < 2 ^ 63 - 1) (hmemory' : memoryBytes < 2 ^ 63 - 1)
    (dir : TempDir) (files : Files) (body : Reader) (disk : Bool) :
    outcomeSeen (newReplayBody dir { mkdirAll := !disk } files body maxBytes memoryBytes) =
      Gateway.newReplayBody (streamSeen body) maxBytes memoryBytes disk := by
  obtain ⟨data, err⟩ := body
  have hmax₀ : maxBytes ≠ 0 := by omega
  have hmemory₀ : memoryBytes ≠ 0 := by omega
  rw [newReplayBody_eq (by omega) (by omega) (by omega) (by omega)]
  unfold Gateway.newReplayBody streamSeen
  simp only [if_neg hmax₀, if_neg hmemory₀]
  by_cases hsmall : data.length ≤ maxBytes ∧ data.length ≤ memoryBytes
  · rw [if_pos (by omega)]
    cases err with
    | some text =>
      have hfails : (some text).isSome = true ∧ data.length < min (maxBytes + 1) (memoryBytes + 1) :=
        ⟨rfl, by omega⟩
      rw [if_pos hfails]
      rfl
    | none =>
      simp only [Option.isSome_none, Bool.false_eq_true, false_and, if_false]
      rw [if_neg (by omega), if_pos (by omega), List.take_of_length_le (by omega)]
      rfl
  have hread : ¬ (err.isSome = true ∧ data.length < min (maxBytes + 1) (memoryBytes + 1)) := by
    omega
  rw [if_neg (by omega), if_neg hread]
  by_cases hequal : maxBytes ≤ memoryBytes
  · rw [if_pos (by omega), if_pos (by omega)]
    rfl
  rw [if_neg (by omega), if_neg (by omega), if_neg (by omega)]
  cases disk with
  | false => rfl
  | true =>
    have htoNat : ((memoryBytes : Int) + 1).toNat = memoryBytes + 1 := by omega
    unfold spill
    simp only [Bool.not_true, Bool.or_self, Bool.false_eq_true, if_false, htoNat]
    by_cases hlong : maxBytes < data.length
    · have hlimited : Reader.limit { data := data, err := err } (maxBytes + 1) =
          { data := data.take (maxBytes + 1) } := Reader.limit_of_le (by dsimp only; omega)
      have hcut : ¬ (err.isSome = true ∧ data.length < maxBytes + 1) := by omega
      have hlength : ((data.take (memoryBytes + 1)).length : Int) +
          ((data.take (maxBytes + 1)).drop (memoryBytes + 1)).length = maxBytes + 1 := by
        rw [List.length_drop, List.length_take, List.length_take]
        omega
      rw [hlimited, Reader.drop, Reader.readAll_of_clean, if_neg hcut, if_pos hlong]
      dsimp only
      rw [hlength, int64_eq (by omega) (by omega), if_pos (by omega)]
      rfl
    · have hlimited : Reader.limit { data := data, err := err } (maxBytes + 1) =
          { data := data, err := err } := Reader.limit_of_lt (by dsimp only; omega)
      rw [hlimited, Reader.drop, Reader.readAll]
      cases err with
      | some text =>
        have hfails : (some text).isSome = true ∧ data.length < maxBytes + 1 := ⟨rfl, by omega⟩
        rw [if_pos hfails]
        rfl
      | none =>
        have hlength : ((data.take (memoryBytes + 1)).length : Int) +
            (data.drop (memoryBytes + 1)).length = data.length := by
          rw [List.length_take, List.length_drop]
          omega
        simp only [Option.isSome_none, Bool.false_eq_true, false_and, if_false, hlength]
        rw [int64_eq (by omega) (by omega), if_neg (by omega), if_neg hlong]
        simp [outcomeSeen, Except.map, ReplayBody.reader, dir.named files]

/-- The model of the handler says what becomes of a body, under bounds below the
greatest `int64`. -/
theorem newReplayBody_refines {maxBytes memoryBytes : Nat} (hmax : maxBytes < 2 ^ 63 - 1)
    (hmemory : memoryBytes < 2 ^ 63 - 1) (dir : TempDir) (files : Files) (body : Reader)
    (disk : Bool) :
    outcomeSeen (newReplayBody dir { mkdirAll := !disk } files body maxBytes memoryBytes) =
      Gateway.newReplayBody (streamSeen body) maxBytes memoryBytes disk := by
  -- what stands for a bound of zero
  generalize hbound : (if maxBytes = 0 then 1 else maxBytes) = bound
  generalize hbound' : (if memoryBytes = 0 then bound else memoryBytes) = bound'
  have hpos : 0 < bound ∧ bound < 2 ^ 63 - 1 := by
    subst hbound
    split <;> omega
  have hpos' : 0 < bound' ∧ bound' < 2 ^ 63 - 1 := by
    subst hbound'
    split <;> omega
  have hleft : newReplayBody dir { mkdirAll := !disk } files body maxBytes memoryBytes =
      newReplayBody dir { mkdirAll := !disk } files body bound bound' := by
    subst hbound'
    subst hbound
    unfold newReplayBody
    by_cases hzero : maxBytes = 0 <;> by_cases hzero' : memoryBytes = 0 <;> simp [hzero, hzero']
  have hright : Gateway.newReplayBody (streamSeen body) maxBytes memoryBytes disk =
      Gateway.newReplayBody (streamSeen body) bound bound' disk := by
    subst hbound'
    subst hbound
    unfold Gateway.newReplayBody
    by_cases hzero : maxBytes = 0 <;> by_cases hzero' : memoryBytes = 0 <;> simp [hzero, hzero']
  rw [hleft, hright]
  exact newReplayBody_refines_pos hpos.1 hpos'.1 hpos.2 hpos'.2 dir files body disk

/-! ## Many bodies at a time -/

/-- The directory of the replay bodies, and the bodies that are open with the bytes
of their requests. -/
structure Spool where
  files : Files := Table.empty
  live : List (ReplayBody × Str) := []

/-- A request comes in, or the `k`-th open body is closed. -/
inductive Step where
  | arrives (faults : DiskFaults) (body : Reader)
  | closes (k : Nat)

/-- One step under fixed bounds. -/
def Spool.step (dir : TempDir) (maxBytes memoryBytes : Int) (s : Spool) : Step → Spool
  | .arrives faults body =>
    match newReplayBody dir faults s.files body maxBytes memoryBytes with
    | (.error _, files) => { s with files := files }
    | (.ok opened, files) => { files := files, live := s.live ++ [(opened, body.data)] }
  | .closes k =>
    match s.live[k]? with
    | none => s
    | some (closed, _) => { files := (closed.close s.files).2, live := s.live.eraseIdx k }

/-- Every open body can be read, no two share a file, and every file is of one. -/
structure Spool.Kept (s : Spool) : Prop where
  replays : ∀ p ∈ s.live, p.1.reader s.files = some p.2
  apart : s.live.Pairwise fun p q => p.1.path = [] ∨ p.1.path ≠ q.1.path
  owned : ∀ path, (s.files.get? path).isSome → ∃ p ∈ s.live, p.1.path = path
  named : s.files.get? [] = none

theorem Spool.kept_empty : ({} : Spool).Kept where
  replays := fun _ hp => absurd hp List.not_mem_nil
  apart := List.Pairwise.nil
  owned := fun _ hsome => absurd hsome Bool.false_ne_true
  named := rfl

/-- The file of an open body is there. -/
theorem Spool.Kept.get?_path {s : Spool} (h : s.Kept) {p : ReplayBody × Str} (hp : p ∈ s.live)
    (hpath : p.1.path ≠ []) : s.files.get? p.1.path = some p.2 := by
  have hread := h.replays p hp
  rwa [ReplayBody.reader, if_neg hpath] at hread

/-- A body kept in memory joins the open ones. -/
theorem Spool.Kept.addMemory {s : Spool} (h : s.Kept) (bytes : Str) (size : Int) :
    ({ s with live := s.live ++ [({ data := bytes, size := size }, bytes)] } : Spool).Kept where
  replays := by
    intro p hp
    rcases List.mem_append.mp hp with hp | hp
    · exact h.replays p hp
    · rw [List.mem_singleton.mp hp]
      rfl
  apart := by
    rw [List.pairwise_append]
    refine ⟨h.apart, List.pairwise_singleton _ _, fun p _ q hq => ?_⟩
    rw [List.mem_singleton.mp hq]
    exact Classical.em _
  owned := by
    intro path hsome
    obtain ⟨p, hp, hpath⟩ := h.owned path hsome
    exact ⟨p, List.mem_append_left _ hp, hpath⟩
  named := h.named

/-- A body on disk joins the open ones, in a file of its own. -/
theorem Spool.Kept.addDisk {s : Spool} (h : s.Kept) {path : Str} (hnamed : path ≠ [])
    (hfresh : s.files.get? path = none) (bytes : Str) (size : Int) :
    ({ files := s.files.put path bytes
       live := s.live ++ [({ path := path, size := size }, bytes)] } : Spool).Kept := by
  have hother : ∀ p ∈ s.live, p.1.path ≠ [] → path ≠ p.1.path := by
    rintro p hp hpath rfl
    rw [h.get?_path hp hpath] at hfresh
    contradiction
  refine ⟨?_, ?_, ?_, ?_⟩
  · intro p hp
    rcases List.mem_append.mp hp with hp | hp
    · by_cases hpath : p.1.path = []
      · have hread := h.replays p hp
        rw [ReplayBody.reader, if_pos hpath] at hread ⊢
        exact hread
      · rw [ReplayBody.reader, if_neg hpath, GoMap.get?_put, if_neg (hother p hp hpath)]
        exact h.get?_path hp hpath
    · rw [List.mem_singleton.mp hp, ReplayBody.reader, if_neg hnamed, GoMap.get?_put, if_pos rfl]
  · rw [List.pairwise_append]
    refine ⟨h.apart, List.pairwise_singleton _ _, fun p hp q hq => ?_⟩
    rw [List.mem_singleton.mp hq]
    by_cases hpath : p.1.path = []
    · exact Or.inl hpath
    · exact Or.inr (hother p hp hpath).symm
  · intro other hsome
    rw [GoMap.get?_put] at hsome
    split at hsome
    next heq => exact ⟨_, List.mem_append_right _ (List.mem_singleton_self _), heq⟩
    next =>
      obtain ⟨p, hp, hpath⟩ := h.owned other hsome
      exact ⟨p, List.mem_append_left _ hp, hpath⟩
  · show (s.files.put path bytes).get? [] = none
    rw [GoMap.get?_put, if_neg hnamed]
    exact h.named

/-- A closed body leaves the open ones, and its file goes. -/
theorem Spool.Kept.close {files : Files} {before after : List (ReplayBody × Str)}
    {closed : ReplayBody} {bytes : Str}
    (h : ({ files := files, live := before ++ (closed, bytes) :: after } : Spool).Kept) :
    ({ files := (closed.close files).2, live := before ++ after } : Spool).Kept := by
  have hmem : ∀ p ∈ before ++ after, p ∈ before ++ (closed, bytes) :: after := fun p hp => by
    rw [List.mem_append] at hp ⊢
    exact hp.imp_right (List.mem_cons_of_mem _)
  have hapart := List.pairwise_append.mp h.apart
  have hother : ∀ p ∈ before ++ after, closed.path ≠ [] → p.1.path ≠ closed.path := by
    intro p hp hpath
    rcases List.mem_append.mp hp with hp | hp
    · rcases hapart.2.2 p hp _ List.mem_cons_self with hnil | hne
      · rw [hnil]
        exact hpath.symm
      · exact hne
    · rcases (List.pairwise_cons.mp hapart.2.1).1 p hp with hnil | hne
      · exact absurd hnil hpath
      · exact hne.symm
  have hpairs : (before ++ after).Pairwise fun p q => p.1.path = [] ∨ p.1.path ≠ q.1.path :=
    h.apart.sublist (List.Sublist.append_left (List.sublist_cons_self _ _) _)
  by_cases hpath : closed.path = []
  · have hfiles : (closed.close files).2 = files := by rw [ReplayBody.close, if_pos hpath]
    rw [hfiles]
    refine ⟨fun p hp => h.replays p (hmem p hp), hpairs, fun path hsome => ?_, h.named⟩
    obtain ⟨p, hp, rfl⟩ := h.owned path hsome
    rcases List.mem_append.mp hp with hp | hp
    · exact ⟨p, List.mem_append_left _ hp, rfl⟩
    · rcases List.mem_cons.mp hp with rfl | hp
      · have hnone := h.named
        rw [hpath] at hsome
        rw [hnone] at hsome
        contradiction
      · exact ⟨p, List.mem_append_right _ hp, rfl⟩
  · have hfiles : (closed.close files).2 = Table.erase files closed.path := by
      rw [ReplayBody.close, if_neg hpath]
    rw [hfiles]
    refine ⟨fun p hp => ?_, hpairs, fun path hsome => ?_, ?_⟩
    · have hread := h.replays p (hmem p hp)
      unfold ReplayBody.reader at hread ⊢
      split at hread
      next hmemory => rw [if_pos hmemory]; exact hread
      next hdisk =>
        rw [if_neg hdisk, GoMap.get?_erase, if_neg (hother p hp hpath)]
        exact hread
    · rw [GoMap.get?_erase] at hsome
      split at hsome
      · contradiction
      next hne =>
        obtain ⟨p, hp, rfl⟩ := h.owned path hsome
        rcases List.mem_append.mp hp with hp | hp
        · exact ⟨p, List.mem_append_left _ hp, rfl⟩
        · rcases List.mem_cons.mp hp with rfl | hp
          · exact absurd rfl hne
          · exact ⟨p, List.mem_append_right _ hp, rfl⟩
    · rw [GoMap.get?_erase, if_neg (Ne.symm hpath)]
      exact h.named

section Runs

variable {maxBytes memoryBytes : Int} (hmax : 0 < maxBytes) (hmemory : 0 < memoryBytes)
  (hmax' : maxBytes < 2 ^ 63 - 1) (hmemory' : memoryBytes < 2 ^ 63 - 1)

include hmax hmemory hmax' hmemory'

theorem Spool.Kept.step {s : Spool} (h : s.Kept) (step : Step) :
    (s.step dir maxBytes memoryBytes step).Kept := by
  cases step with
  | arrives faults body =>
    have houtcome : Outcome s.files body.data
        (newReplayBody dir faults s.files body maxBytes memoryBytes) :=
      newReplayBody_outcome hmax hmemory hmax' hmemory' body
    unfold Spool.step
    dsimp only
    generalize newReplayBody dir faults s.files body maxBytes memoryBytes = outcome at houtcome
    cases houtcome with
    | refused err => exact h
    | memory => exact h.addMemory _ _
    | disk path hnamed hfresh => exact h.addDisk hnamed hfresh _ _
  | closes k =>
    unfold Spool.step
    dsimp only
    cases hk : s.live[k]? with
    | none => exact h
    | some p =>
      obtain ⟨closed, bytes⟩ := p
      obtain ⟨hlt, hget⟩ := List.getElem?_eq_some_iff.mp hk
      have hsplit : s.live = s.live.take k ++ (closed, bytes) :: s.live.drop (k + 1) := by
        rw [← hget, List.cons_getElem_drop_succ, List.take_append_drop]
      obtain ⟨files, live⟩ := s
      dsimp only at hsplit ⊢
      rw [hsplit] at h
      rw [List.eraseIdx_eq_take_drop_succ]
      exact h.close

/-- In every run of requests and closings, with whatever failures, each open body
gives the bytes of its request, and with none open there is no file. -/
theorem open_bodies_replay (dir : TempDir) (steps : List Step) :
    (∀ p ∈ (steps.foldl (Spool.step dir maxBytes memoryBytes) {}).live,
        p.1.reader (steps.foldl (Spool.step dir maxBytes memoryBytes) {}).files = some p.2) ∧
      ((steps.foldl (Spool.step dir maxBytes memoryBytes) {}).live = [] → ∀ path,
        (steps.foldl (Spool.step dir maxBytes memoryBytes) {}).files.get? path = none) := by
  have hkept : (steps.foldl (Spool.step dir maxBytes memoryBytes) {}).Kept := by
    refine List.foldlRecOn steps _ Spool.kept_empty fun s h step _ => ?_
    exact h.step hmax hmemory hmax' hmemory' step
  refine ⟨hkept.replays, fun hnone path => ?_⟩
  by_contra hsome
  obtain ⟨p, hp, -⟩ := hkept.owned path (Option.isSome_iff_ne_none.mpr hsome)
  rw [hnone] at hp
  exact absurd hp List.not_mem_nil

end Runs

end Lune.Gateway.Replay
