import Switchover.Frame.Reader
import Switchover.Frame.Writer
import Switchover.Proofs.Bytes

namespace Switchover.Frame

theorem Header.encode_eq_ok {header : Header} (fits : header.length.toNat ≤ maxSizeLimit) :
    header.encode = .ok (Bytes.ofNat24 header.length.toNat ++ [header.type, header.flags] ++
      Bytes.ofNat32 header.stream.toNat) :=
  if_pos fits

theorem Header.parse_encode {header : Header} {bytes : Bytes} (rest : Bytes)
    (written : header.encode = .ok bytes) (clear : header.stream.toNat < 2147483648) :
    Header.parse (bytes ++ rest) = .ok (header, rest) := by
  unfold encode at written
  split at written
  · rename_i fits
    cases written
    have length : header.length.toNat % 16777216 = header.length.toNat :=
      Nat.mod_eq_of_lt (Nat.lt_succ_of_le fits)
    have word : header.stream.toNat % 4294967296 = header.stream.toNat :=
      Nat.mod_eq_of_lt (by omega)
    simp only [Bytes.ofNat24, Bytes.ofNat32, Bytes.ofNat16, List.cons_append, List.nil_append,
      Header.parse, Bytes.nat24_ofNat, Bytes.nat32_ofNat, length, word, StreamId.ofNat,
      Nat.mod_eq_of_lt clear, UInt32.ofNat_toNat]
  · cases written

structure Whole (frame : Frame) (bytes : Bytes) : Prop where
  length : frame.header.length.toNat = frame.payload.length
  clear : frame.header.stream.toNat < 2147483648
  written : frame.header.encode.map (· ++ frame.payload) = .ok bytes

/-- Whether bytes are whole frames, one behind the other. -/
inductive Spells : List Frame → Bytes → Prop
  | nil : Spells [] []
  | cons {frame : Frame} {frames : List Frame} {first rest : Bytes} (whole : Whole frame first)
      (others : Spells frames rest) : Spells (frame :: frames) (first ++ rest)

theorem Whole.parse {frame : Frame} {first : Bytes} (rest : Bytes) (whole : Whole frame first) :
    Header.parse (first ++ rest) = .ok (frame.header, frame.payload ++ rest) := by
  obtain ⟨_, clear, written⟩ := whole
  cases encoded : frame.header.encode with
  | error failure =>
    rw [encoded] at written
    cases written
  | ok header =>
    rw [encoded] at written
    cases written
    rw [List.append_assoc, Header.parse_encode _ encoded clear]

theorem Whole.read? {frame : Frame} {first : Bytes} (rest : Bytes) (whole : Whole frame first) :
    Frame.read? (first ++ rest) = some (frame, rest) := by
  unfold Frame.read?
  rw [whole.parse rest]
  simp [whole.length]

theorem Spells.readAll {frames : List Frame} {bytes : Bytes} (spelled : Spells frames bytes) :
    Frame.readAll bytes = (frames, []) := by
  induction spelled with
  | nil =>
    rw [Frame.readAll]
    rfl
  | @cons frame frames first rest whole others ih =>
    have read := whole.read? rest
    rw [Frame.readAll]
    split
    · rename_i failed
      rw [read] at failed
      cases failed
    · rename_i next behind done
      rw [read] at done
      cases done
      rw [ih]

theorem Spells.unique {frames others : List Frame} {bytes : Bytes} (first : Spells frames bytes)
    (second : Spells others bytes) : others = frames := by
  have same := first.readAll.symm.trans second.readAll
  exact (Prod.mk.inj same).1.symm

theorem Spells.single {frame : Frame} {bytes : Bytes} (whole : Whole frame bytes) :
    Spells [frame] bytes := by
  have spelled := Spells.cons whole .nil
  rwa [List.append_nil] at spelled

def around (kind : Kind) (flags : UInt8) (stream : StreamId) (payload : Bytes) : Frame :=
  ⟨.new kind flags stream (UInt32.ofNat payload.length), payload⟩

@[simp] theorem around_kind? (kind : Kind) (flags : UInt8) (stream : StreamId) (payload : Bytes) :
    (around kind flags stream payload).header.kind? = some kind := by
  cases kind <;> rfl

theorem write_whole (kind : Kind) (flags : UInt8) {stream : StreamId} {payload : Bytes}
    (clear : stream.toNat < 2147483648) (fits : payload.length ≤ maxSizeLimit) :
    ∃ bytes, write kind flags stream payload = .ok bytes ∧
      Whole (around kind flags stream payload) bytes := by
  have length : (UInt32.ofNat payload.length).toNat = payload.length :=
    UInt32.toNat_ofNat_of_lt' (Nat.lt_of_le_of_lt fits (by decide))
  have small : (around kind flags stream payload).header.length.toNat ≤ maxSizeLimit := by
    rwa [← length] at fits
  have encoded := Header.encode_eq_ok small
  have written : write kind flags stream payload =
      (around kind flags stream payload).header.encode.map (· ++ payload) := rfl
  rw [encoded] at written
  refine ⟨_, written, length, clear, ?_⟩
  rw [encoded]
  rfl

/-- A payload is too long for its frame if the length that its header would say is. -/
theorem write_isOk_iff (kind : Kind) (flags : UInt8) (stream : StreamId) (payload : Bytes) :
    (∃ bytes, write kind flags stream payload = .ok bytes) ↔
      payload.length % 4294967296 < 16777216 := by
  have length : (UInt32.ofNat payload.length).toNat = payload.length % 4294967296 :=
    UInt32.toNat_ofNat'
  constructor
  · rintro ⟨bytes, written⟩
    rw [← length]
    by_cases fits : (UInt32.ofNat payload.length).toNat ≤ maxSizeLimit
    · exact Nat.lt_succ_of_le fits
    · rw [write, Header.encode, Header.new, if_neg fits] at written
      cases written
  · intro small
    have fits : (UInt32.ofNat payload.length).toNat ≤ maxSizeLimit := by
      rw [length]
      exact Nat.le_of_lt_succ small
    rw [write, Header.encode, Header.new, if_pos fits]
    exact ⟨_, rfl⟩

theorem flatten_pieces (size : Nat) (block : Bytes) : (pieces size block).flatten = block := by
  fun_induction pieces size block with
  | case1 => simp
  | case2 block long ih => rw [List.flatten_cons, ih, List.take_append_drop]

theorem length_le_of_mem_pieces {size : Nat} {block piece : Bytes} (positive : 0 < size)
    (member : piece ∈ pieces size block) : piece.length ≤ size := by
  fun_induction pieces size block with
  | case1 block short =>
    rw [List.mem_singleton] at member
    subst member
    omega
  | case2 block long ih =>
    rcases List.mem_cons.mp member with rfl | member
    · rw [List.length_take]
      omega
    · exact ih member

theorem pieces_ne_nil (size : Nat) (block : Bytes) : pieces size block ≠ [] := by
  rw [pieces]
  split <;> simp

/-- Whether frames carry a header block: one HEADERS frame and CONTINUATION frames, the last of
which alone ends the block. -/
structure Carries (stream : StreamId) (endStream : Bool) (block : Bytes) (headers : Frame)
    (continuations : List Frame) : Prop where
  kind : headers.header.kind? = some .headers
  kinds : ∀ frame ∈ continuations, frame.header.kind? = some .continuation
  streams : ∀ frame ∈ headers :: continuations, frame.header.stream = stream
  flags : headers.header.flags = (if endStream then Flag.endStream else 0) |||
    (if continuations = [] then Flag.endHeaders else 0)
  laterFlags : ∀ before frame behind, continuations = before ++ frame :: behind →
    frame.header.flags = if behind = [] then Flag.endHeaders else 0
  block : (headers :: continuations).flatMap (·.payload) = block

def continuationFrames (stream : StreamId) : List Bytes → List Frame
  | [] => []
  | piece :: rest =>
    around .continuation (if rest = [] then Flag.endHeaders else 0) stream piece ::
      continuationFrames stream rest

theorem payload_continuationFrames (stream : StreamId) (rest : List Bytes) :
    (continuationFrames stream rest).map (·.payload) = rest := by
  induction rest with
  | nil => rfl
  | cons piece rest ih => rw [continuationFrames, List.map_cons, ih]; rfl

theorem continuationFrames_eq_nil_iff (stream : StreamId) (rest : List Bytes) :
    continuationFrames stream rest = [] ↔ rest = [] := by
  cases rest <;> simp [continuationFrames]

theorem mem_continuationFrames {stream : StreamId} {rest : List Bytes} {frame : Frame}
    (member : frame ∈ continuationFrames stream rest) :
    frame.header.kind? = some .continuation ∧ frame.header.stream = stream := by
  induction rest with
  | nil => cases member
  | cons piece rest ih =>
    rcases List.mem_cons.mp member with rfl | member
    · exact ⟨around_kind? _ _ _ _, rfl⟩
    · exact ih member

theorem flags_continuationFrames {stream : StreamId} {rest : List Bytes} {frame : Frame}
    {before behind : List Frame}
    (split : continuationFrames stream rest = before ++ frame :: behind) :
    frame.header.flags = if behind = [] then Flag.endHeaders else 0 := by
  induction rest generalizing before with
  | nil => simp [continuationFrames] at split
  | cons piece rest ih =>
    rw [continuationFrames] at split
    cases before with
    | nil =>
      rw [List.nil_append, List.cons.injEq] at split
      obtain ⟨rfl, rfl⟩ := split
      simp only [continuationFrames_eq_nil_iff]
      rfl
    | cons other before =>
      rw [List.cons_append, List.cons.injEq] at split
      exact ih split.2

theorem continuations_spelled {stream : StreamId} {rest : List Bytes}
    (clear : stream.toNat < 2147483648) (fit : ∀ piece ∈ rest, piece.length ≤ maxSizeLimit) :
    ∃ bytes, continuations stream rest = .ok bytes ∧
      Spells (continuationFrames stream rest) bytes := by
  induction rest with
  | nil => exact ⟨[], rfl, .nil⟩
  | cons piece rest ih =>
    have first := fit piece List.mem_cons_self
    obtain ⟨others, done, spelled⟩ := ih fun other member =>
      fit other (List.mem_cons_of_mem _ member)
    cases rest with
    | nil =>
      obtain ⟨bytes, written, whole⟩ := write_whole .continuation Flag.endHeaders clear first
      exact ⟨bytes, written, .single whole⟩
    | cons next rest =>
      obtain ⟨bytes, written, whole⟩ := write_whole .continuation 0 clear first
      refine ⟨bytes ++ others, ?_, .cons whole spelled⟩
      rw [continuations, written, done]
      · rfl
      · simp

/-- A header block becomes whole frames that carry it, none of them longer than a piece. -/
theorem headerBlock_carries {stream : StreamId} (block : Bytes) (endStream : Bool)
    (maxSize : UInt32) (clear : stream.toNat < 2147483648)
    (fit : ∀ piece ∈ pieces (max maxSize.toNat defaultMaxSize) block,
      piece.length ≤ maxSizeLimit) :
    ∃ bytes headers continuations,
      headerBlock stream block endStream maxSize = .ok bytes ∧
      Spells (headers :: continuations) bytes ∧
      Carries stream endStream block headers continuations ∧
      (headers :: continuations).map (·.payload) =
        pieces (max maxSize.toNat defaultMaxSize) block := by
  have some := pieces_ne_nil (max maxSize.toNat defaultMaxSize) block
  have whole := flatten_pieces (max maxSize.toNat defaultMaxSize) block
  unfold headerBlock
  generalize pieces (max maxSize.toNat defaultMaxSize) block = cut at some whole fit
  cases cut with
  | nil => exact absurd rfl some
  | cons first rest =>
    have short := fit first List.mem_cons_self
    obtain ⟨others, done, spelled⟩ := continuations_spelled clear
      fun other member => fit other (List.mem_cons_of_mem _ member)
    obtain ⟨bytes, written, framed⟩ := write_whole .headers
      ((if endStream then Flag.endStream else 0) ||| (if rest = [] then Flag.endHeaders else 0))
      clear short
    have payloads := payload_continuationFrames stream rest
    refine ⟨bytes ++ others, _, continuationFrames stream rest, ?_, .cons framed spelled, ?_, ?_⟩
    · cases rest with
      | nil =>
        cases done
        rw [List.append_nil]
        exact written
      | cons next rest =>
        simp only [List.cons_ne_nil, if_false, UInt8.or_zero] at written
        simp only [written, done]
        rfl
    · refine ⟨around_kind? _ _ _ _, fun frame member => (mem_continuationFrames member).1, ?_, ?_,
        fun before frame behind split => flags_continuationFrames split, ?_⟩
      · intro frame member
        rcases List.mem_cons.mp member with rfl | member
        · rfl
        · exact (mem_continuationFrames member).2
      · simp only [continuationFrames_eq_nil_iff]
        rfl
      · rw [List.flatMap_cons, List.flatMap_def, payloads]
        exact whole
    · rw [List.map_cons, payloads]
      rfl

end Switchover.Frame
