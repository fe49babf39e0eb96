import ClarityCheck.Run.Supervision

/-!
# Reading a stream to its end

The bytes of a stream come in pieces, one for each read. A reader keeps the bytes up to a limit, for
which it may have to take only the beginning of a piece, then reads on to the end of the stream and
counts what it drops. A read that a signal interrupts is made again; any other failed read ends the
reading.

Main statement: `readCapped_ok` (what a reader hands over has been made of the whole stream).
-/

namespace ClarityCheck.Run

/-- What a read of a stream gives. -/
inductive Piece where
  | bytes (bs : Bytes)
  /-- A signal came in between. -/
  | interrupted
  | failed (error : SystemError)
  deriving DecidableEq, Repr

namespace Piece

/-- The bytes that a piece adds to its stream. -/
def content : Piece → Bytes
  | .bytes bs => bs
  | .interrupted | .failed _ => []

/-- The bytes of a stream. -/
def stream (pieces : List Piece) : Bytes := pieces.flatMap content

@[simp] theorem stream_nil : stream [] = [] := rfl

@[simp] theorem stream_cons (p : Piece) (pieces : List Piece) :
    stream (p :: pieces) = p.content ++ stream pieces := rfl

end Piece

/-- Reads a number of bytes, or as many as there are, and gives what remains to be read. -/
def readUpTo : (room : Nat) → List Piece → Except SystemError Bytes × List Piece
  | _, [] => (.ok [], [])
  | 0, pieces => (.ok [], pieces)
  | room + 1, .bytes bs :: rest =>
    if bs.length ≤ room + 1 then
      let (result, left) := readUpTo (room + 1 - bs.length) rest
      (result.map (bs ++ ·), left)
    else (.ok (bs.take (room + 1)), .bytes (bs.drop (room + 1)) :: rest)
  | room + 1, .interrupted :: rest => readUpTo (room + 1) rest
  | _ + 1, .failed e :: rest => (.error e, rest)

/-- Reads to the end, and counts the bytes that it drops. -/
def dropRest : List Piece → Except SystemError Nat × List Piece
  | [] => (.ok 0, [])
  | .bytes bs :: rest =>
    let (result, left) := dropRest rest
    (result.map (bs.length + ·), left)
  | .interrupted :: rest => dropRest rest
  | .failed e :: rest => (.error e, rest)

/-- Reads a stream to its end, keeps its bytes up to a limit, and gives what remains to be read. -/
def readCapped (limit : Nat) (pieces : List Piece) : Except SystemError Captured × List Piece :=
  match readUpTo limit pieces with
  | (.error e, left) => (.error e, left)
  | (.ok kept, left) =>
    match dropRest left with
    | (.error e, left) => (.error e, left)
    | (.ok dropped, left) => (.ok ⟨kept, 0 < dropped⟩, left)

/-! ## What is read -/

/-- What is kept of a stream up to a limit. -/
def keep (limit : Nat) (stream : Bytes) : Captured := ⟨stream.take limit, limit < stream.length⟩

theorem readUpTo_ok {room : Nat} {pieces left : List Piece} {kept : Bytes}
    (h : readUpTo room pieces = (.ok kept, left)) :
    kept = (Piece.stream pieces).take room ∧
    Piece.stream left = (Piece.stream pieces).drop room := by
  fun_induction readUpTo room pieces generalizing kept left with
  | case1 room =>
    cases h
    simp
  | case2 pieces hne =>
    cases h
    simp
  | case3 room bs rest hfits result left' hread ih =>
    cases result with
    | error e => cases h
    | ok more =>
      cases h
      obtain ⟨hmore, hleft⟩ := ih hread
      simp only [Piece.stream_cons, Piece.content, List.take_append, List.drop_append]
      rw [List.take_of_length_le hfits, List.drop_of_length_le hfits, hmore, hleft]
      simp
  | case4 room bs rest hlong =>
    cases h
    have hle : room + 1 ≤ bs.length := by omega
    simp [Piece.content, List.take_append_of_le_length hle, List.drop_append_of_le_length hle]
  | case5 room rest ih => exact ih h
  | case6 room e rest => cases h

theorem dropRest_ok {pieces left : List Piece} {dropped : Nat}
    (h : dropRest pieces = (.ok dropped, left)) :
    dropped = (Piece.stream pieces).length ∧ left = [] := by
  fun_induction dropRest pieces generalizing dropped left with
  | case1 =>
    cases h
    simp
  | case2 bs rest result left' hdrop ih =>
    cases result with
    | error e => cases h
    | ok more =>
      cases h
      obtain ⟨hmore, hleft⟩ := ih hdrop
      simp [Piece.content, hmore, hleft]
  | case3 rest ih => exact ih h
  | case4 e rest => cases h

/-- What a reader hands over has been made of the whole stream, and nothing remains to be read. -/
theorem readCapped_ok {limit : Nat} {pieces left : List Piece} {c : Captured}
    (h : readCapped limit pieces = (.ok c, left)) :
    c = keep limit (Piece.stream pieces) ∧ left = [] := by
  unfold readCapped at h
  split at h
  · cases h
  · next kept middle hread =>
    obtain ⟨hkept, hmiddle⟩ := readUpTo_ok hread
    split at h
    · cases h
    · next dropped last hdrop =>
      cases h
      obtain ⟨hdropped, hlast⟩ := dropRest_ok hdrop
      refine ⟨?_, hlast⟩
      rw [hdropped, hmiddle, hkept, keep, List.length_drop]
      simp only [Captured.mk.injEq, true_and]
      exact decide_eq_decide.mpr (by omega)

theorem readCapped_eq_of_ok {limit : Nat} {pieces : List Piece} {c : Captured}
    (h : (readCapped limit pieces).1 = .ok c) : readCapped limit pieces = (.ok c, []) := by
  have hread : readCapped limit pieces = (.ok c, (readCapped limit pieces).2) := Prod.ext h rfl
  rw [hread, (readCapped_ok hread).2]

/-! ## A stream that is waited for -/

/-- What a wait for a reader shows besides what it hands over. -/
structure Wait where
  /-- The time to the deadline when the wait begins. -/
  remaining : Duration
  /-- The reader has come to an end before the wait does. -/
  ended : Bool
  cancelled : Bool

/-- A stream with its reader, seen from where it is waited for. -/
structure Feed where
  pieces : List Piece
  waits : Nat → Wait

namespace Feed

/-- The bytes of the stream. -/
def stream (f : Feed) : Bytes := Piece.stream f.pieces

/-- What waiting for the reader shows. -/
def arrival (limit : Nat) (f : Feed) (k : Nat) : Arrival where
  remaining := (f.waits k).remaining
  captured := if (f.waits k).ended then some (readCapped limit f.pieces).1 else none
  cancelled := (f.waits k).cancelled

end Feed

end ClarityCheck.Run
