import Breadboard.Proofs.Word
import Breadboard.Wire.SimBoard
import Mathlib.Data.List.DropRight

/-!
# The outbound stream and its requests

Frames follow each other on the wire with nothing between them, and the stream
reaches the board in pieces that need not end where a frame does. The bytes of a
frame say nothing by themselves: a byte of data or of a control word may be the
letter of a request or the byte that ends one. What makes the stream readable is
that a frame's letter fixes its length.

Two facts carry the proof. Receiving in pieces is receiving in one, because a
board that has served what it could goes on as if it had kept all bytes: a frame
is taken as soon as it is complete and bytes behind it change nothing about it.
And a frame at the head of a stream is taken as the request it was made from, so
that in one piece the stream comes apart by induction on the requests.

All that is lost on the way are the bits of a control word past the last line,
which are not sent.
-/

namespace Breadboard

/-! ## Control words on the wire -/

namespace ControlWord

/-- The part of a word that lies on the lines: its low forty-eight bits. -/
def onLines (w : ControlWord) : ControlWord := .ofNat (w.toNat % (1 <<< Line.count))

/-- **The wire bytes of a word** are those of its part on the lines. -/
theorem ofWire_wire (w : ControlWord) : ofWire w.wire = w.onLines := by
  have hjoin : (((((0 * 256 + w.toNat >>> 40 % 256) * 256 + w.toNat >>> 32 % 256) * 256
      + w.toNat >>> 24 % 256) * 256 + w.toNat >>> 16 % 256) * 256
      + w.toNat >>> 8 % 256) * 256 + w.toNat >>> 0 % 256 = w.toNat % 2 ^ 48 := by omega
  have hlines : 1 <<< Line.count = 2 ^ 48 := rfl
  unfold ofWire wire onLines
  simp only [List.map_cons, List.map_nil, List.foldl_cons, List.foldl_nil, UInt8.toNat_ofNat']
  rw [hlines]
  exact congrArg ofNat hjoin

end ControlWord

/-! ## One frame -/

namespace Request

/-- A request as the board hears it. -/
def heard : Request → Request
  | drive word => drive word.onLines
  | r => r

@[simp]
theorem letter_heard (r : Request) : r.heard.letter = r.letter := by cases r <;> rfl

/-- The byte that a request puts on the data bus. -/
def byte? : Request → Option UInt8
  | write byte => some byte
  | _ => none

/-- The control word that a request drives. -/
def word? : Request → Option ControlWord
  | drive word => some word
  | _ => none

@[simp]
theorem byte?_heard (r : Request) : r.heard.byte? = r.byte? := by cases r <;> rfl

@[simp]
theorem word?_heard (r : Request) : r.heard.word? = r.word?.map .onLines := by
  cases r <;> rfl

/-- The first byte of a frame begins one. -/
theorem begins_letter (r : Request) : begins (UInt8.ofNat r.letter.toNat) = true := by
  cases r <;> rfl

/-- **A frame is taken from the head of a stream**, whatever follows it. -/
theorem take?_frame (r : Request) (rest : List UInt8) :
    take? (r.frame ++ rest) = some (r.heard, rest) := by
  cases r with
  | drive word =>
    show some (drive (.ofWire word.wire), rest) = _
    rw [ControlWord.ofWire_wire]
    rfl
  | _ => rfl

/-- **Bytes behind a complete frame** change nothing about it. -/
theorem take?_append {bytes rest : List UInt8} {r : Request} (h : take? bytes = some (r, rest))
    (more : List UInt8) : take? (bytes ++ more) = some (r, rest ++ more) := by
  unfold take? at h
  repeat' split at h
  all_goals
    simp only [Option.some.injEq, Prod.mk.injEq, reduceCtorEq] at h
  all_goals
    obtain ⟨rfl, rfl⟩ := h
    simp_all [take?]

end Request

/-! ## One piece -/

namespace SimBoard

variable {b : SimBoard}

/-- Bytes that were skipped once are not there to be skipped again. -/
theorem aligned_aligned (b : SimBoard) :
    ({ b with inbound := b.aligned } : SimBoard).aligned = b.aligned :=
  List.dropWhile_idempotent _ _

/-- Skipping goes on behind bytes that were all skipped, and nowhere else. -/
theorem aligned_append (b : SimBoard) (more : List UInt8) :
    ({ b with inbound := b.inbound ++ more } : SimBoard).aligned
      = if b.aligned.isEmpty then ({ b with inbound := more } : SimBoard).aligned
        else b.aligned ++ more :=
  List.dropWhile_append

/-- Where a frame begins the bytes collected, none are skipped. -/
theorem aligned_of_begins {byte : UInt8} {rest : List UInt8} (hb : Request.begins byte = true)
    (h : b.inbound = byte :: rest) : b.aligned = b.inbound := by
  unfold aligned
  rw [h]
  simp [hb]

/-- The board that has taken a request and has some bytes left. -/
def taking (b : SimBoard) (r : Request) (rest : List UInt8) : SimBoard :=
  { b with inbound := rest, requests := b.requests ++ [r] }

theorem serve_of_none (h : Request.take? b.aligned = none) :
    b.serve = ({ b with inbound := b.aligned }, []) := by
  rw [serve]
  split
  · rfl
  · rename_i htaken
    exact absurd (h.symm.trans htaken) (by simp)

theorem serve_of_some {r : Request} {rest : List UInt8}
    (h : Request.take? b.aligned = some (r, rest)) :
    b.serve = ((b.taking r rest).serve.1,
      (b.answer r).2.toList ++ (b.taking r rest).serve.2) := by
  rw [serve]
  split
  · rename_i htaken
    exact absurd (h.symm.trans htaken) (by simp)
  · rename_i r' rest' htaken
    obtain ⟨rfl, rfl⟩ := Prod.mk.inj (Option.some.inj (h.symm.trans htaken))
    rfl

/-- Serving skips what begins no frame first. -/
theorem serve_aligned (b : SimBoard) :
    ({ b with inbound := b.aligned } : SimBoard).serve = b.serve := by
  cases htaken : Request.take? b.aligned with
  | none =>
    rw [serve_of_none htaken, serve_of_none (by rw [aligned_aligned]; exact htaken),
      aligned_aligned]
  | some taken =>
    obtain ⟨r, rest⟩ := taken
    rw [serve_of_some htaken, serve_of_some (by rw [aligned_aligned]; exact htaken)]
    rfl

/-- **Serving leaves off where it can go on** when there are more bytes. -/
theorem serve_append (b : SimBoard) (more : List UInt8) :
    ({ b with inbound := b.inbound ++ more } : SimBoard).serve
      = ((b.serve.1.receive more).1, b.serve.2 ++ (b.serve.1.receive more).2) := by
  induction hlength : b.inbound.length using Nat.strongRecOn generalizing b with
  | _ n ih =>
    cases htaken : Request.take? b.aligned with
    | none =>
      -- What is left was skipped to its first frame already.
      rw [serve_of_none htaken]
      show _ = ({ b with inbound := b.aligned ++ more } : SimBoard).serve
      rw [← serve_aligned { b with inbound := b.inbound ++ more },
        ← serve_aligned { b with inbound := b.aligned ++ more }, aligned_append,
        aligned_append { b with inbound := b.aligned } more, aligned_aligned]
    | some taken =>
      obtain ⟨r, rest⟩ := taken
      have haligned : ({ b with inbound := b.inbound ++ more } : SimBoard).aligned
          = b.aligned ++ more := by
        rw [aligned_append, if_neg]
        intro hempty
        rw [List.isEmpty_iff.mp hempty] at htaken
        exact absurd htaken (by simp [Request.take?])
      have hshorter : rest.length < n := hlength ▸ Nat.lt_of_lt_of_le
        (Request.length_take?_lt htaken) b.length_aligned_le
      have hrest : (b.taking r (rest ++ more)).serve
          = (((b.taking r rest).serve.1.receive more).1,
            (b.taking r rest).serve.2 ++ ((b.taking r rest).serve.1.receive more).2) :=
        ih rest.length hshorter (b.taking r rest) rfl
      rw [serve_of_some htaken,
        serve_of_some (by rw [haligned]; exact Request.take?_append htaken more)]
      show ((b.taking r (rest ++ more)).serve.1,
        (b.answer r).2.toList ++ (b.taking r (rest ++ more)).serve.2) = _
      rw [hrest, List.append_assoc]

/-! ## Pieces -/

/-- **Receives pieces** of a stream, one after the other, with all answers. -/
def receiveAll (b : SimBoard) : List (List UInt8) → SimBoard × List Response
  | [] => (b, [])
  | piece :: rest =>
    let (b, responses) := b.receive piece
    let (b, more) := b.receiveAll rest
    (b, responses ++ more)

theorem receiveAll_cons (b : SimBoard) (piece : List UInt8) (rest : List (List UInt8)) :
    b.receiveAll (piece :: rest) = (((b.receive piece).1.receiveAll rest).1,
      (b.receive piece).2 ++ ((b.receive piece).1.receiveAll rest).2) := rfl

/-- Whether a board has served what it could: no frame that it has is complete,
and no byte that it has is to be skipped. -/
def Served (b : SimBoard) : Prop := b.serve = (b, [])

theorem served_of_empty (h : b.inbound = []) : b.Served := by
  have haligned : b.aligned = [] := by
    unfold aligned
    rw [h]
    rfl
  unfold Served
  rw [serve_of_none (by rw [haligned]; rfl), haligned, ← h]

/-- A board that has received something has served what it could. -/
theorem served_receive (b : SimBoard) (bytes : List UInt8) : (b.receive bytes).1.Served := by
  have hagain := serve_append { b with inbound := b.inbound ++ bytes } []
  -- Appending nothing is serving once more, which takes and answers nothing.
  rw [List.append_nil] at hagain
  have hboard := congrArg Prod.fst hagain
  have hanswers := congrArg Prod.snd hagain
  dsimp only at hboard hanswers
  have hreceived : (b.receive bytes).1.receive [] = ((b.receive bytes).1, []) :=
    Prod.ext hboard.symm (List.self_eq_append_right.mp hanswers)
  unfold receive at hreceived
  rw [List.append_nil] at hreceived
  exact hreceived

/-- **Receiving in pieces is receiving in one.** -/
theorem receiveAll_eq_receive (h : b.Served) (pieces : List (List UInt8)) :
    b.receiveAll pieces = b.receive pieces.flatten := by
  induction pieces generalizing b with
  | nil =>
    show _ = ({ b with inbound := b.inbound ++ [] } : SimBoard).serve
    rw [List.append_nil]
    exact h.symm
  | cons piece rest ih =>
    rw [receiveAll_cons, ih (served_receive b piece), List.flatten_cons]
    show _ = ({ b with inbound := b.inbound ++ (piece ++ rest.flatten) } : SimBoard).serve
    rw [← List.append_assoc]
    exact (serve_append { b with inbound := b.inbound ++ piece } rest.flatten).symm

/-! ## Whole streams -/

/-- The answers of a board to some requests. -/
def responses (v : BoardValues) (requests : List Request) : List Response :=
  if v.mute then [] else requests.filterMap (response? v)

theorem responses_cons (b : SimBoard) (r : Request) (rest : List Request) :
    (b.answer r.heard).2.toList ++ responses b.values rest = responses b.values (r :: rest) := by
  unfold answer responses
  split
  · rfl
  · cases r <;> rfl

/-- **A stream of frames in one piece** comes apart into its requests. -/
theorem serve_frames (b : SimBoard) (requests : List Request) :
    ({ b with inbound := requests.flatMap Request.frame } : SimBoard).serve
      = ({ b with inbound := [], requests := b.requests ++ requests.map Request.heard },
        responses b.values requests) := by
  induction requests generalizing b with
  | nil =>
    refine (served_of_empty (b := { b with inbound := [] }) rfl).trans ?_
    unfold responses
    rw [List.map_nil, List.append_nil, List.filterMap_nil, ite_self]
  | cons r rest ih =>
    let collected : SimBoard := { b with inbound := (r :: rest).flatMap Request.frame }
    have htaken : Request.take? collected.aligned
        = some (r.heard, rest.flatMap Request.frame) := by
      rw [aligned_of_begins (b := collected) (Request.begins_letter r) rfl]
      exact Request.take?_frame r _
    have hrest := ih { b with requests := b.requests ++ [r.heard] }
    rw [serve_of_some (b := collected) htaken]
    show (({ b with
        requests := b.requests ++ [r.heard]
        inbound := rest.flatMap Request.frame } : SimBoard).serve.1, _ ++ _) = _
    unfold taking
    rw [hrest, List.append_assoc]
    exact congrArg (Prod.mk _) (responses_cons b r rest)

theorem written_eq (b : SimBoard) : b.written = b.requests.filterMap Request.byte? := by
  refine congrArg (List.filterMap · b.requests) (funext fun r => ?_)
  cases r <;> rfl

theorem driven_eq (b : SimBoard) : b.driven = b.requests.filterMap Request.word? := by
  refine congrArg (List.filterMap · b.requests) (funext fun r => ?_)
  cases r <;> rfl

/-- **Request frames are self-delimiting.** However a stream of frames is cut into
pieces, a board with an empty buffer notes one request for each frame, in order: the
letters and the data bytes as they were sent, and of each control word what lies on
the lines. Its answers are those to the requests, and no byte is left over. -/
theorem frames_self_delimiting (b : SimBoard) (requests : List Request)
    (pieces : List (List UInt8)) (hcut : pieces.flatten = requests.flatMap Request.frame) :
    let received := ({ b with inbound := [] } : SimBoard).receiveAll pieces
    received.1.inbound = []
      ∧ received.1.requests.map Request.letter
        = b.requests.map Request.letter ++ requests.map Request.letter
      ∧ received.1.written = b.written ++ requests.filterMap Request.byte?
      ∧ received.1.driven = b.driven ++ (requests.filterMap Request.word?).map ControlWord.onLines
      ∧ received.2 = responses b.values requests := by
  intro received
  have hall : received
      = ({ b with inbound := [], requests := b.requests ++ requests.map Request.heard },
        responses b.values requests) := by
    show SimBoard.receiveAll _ pieces = _
    rw [receiveAll_eq_receive (served_of_empty rfl), hcut]
    exact serve_frames b requests
  rw [hall]
  refine ⟨rfl, ?_, ?_, ?_, rfl⟩
  · rw [List.map_append, List.map_map]
    exact congrArg _ (List.map_congr_left fun r _ => Request.letter_heard r)
  · rw [written_eq, written_eq, List.filterMap_append, List.filterMap_map]
    exact congrArg _ (List.filterMap_congr fun r _ => Request.byte?_heard r)
  · rw [driven_eq, driven_eq, List.filterMap_append, List.filterMap_map, List.map_filterMap]
    exact congrArg _ (List.filterMap_congr fun r _ => Request.word?_heard r)

/-- A data byte that is the end of a frame and a word whose bytes are letters, cut
within their frames. -/
def cutPieces : List (List UInt8) :=
  [[0x44, 0x0A], [0x0A, 0x4C, 0x61], [0x0A, 0x44, 0x4C], [], [0x73, 0x64, 0x0A, 0x73], [0x0A]]

/-- A fresh board takes three requests from these pieces, and the word without the
bits that drive no line. -/
theorem frames_self_delimiting_cutPieces :
    cutPieces.flatten
        = [.write 0x0A, .drive ⟨0xFFFF610A444C7364⟩, .status].flatMap Request.frame
      ∧ (fresh.receiveAll cutPieces).1.inbound = []
      ∧ (fresh.receiveAll cutPieces).1.requests.map Request.letter = ['D', 'L', 's']
      ∧ (fresh.receiveAll cutPieces).1.written = [0x0A]
      ∧ (fresh.receiveAll cutPieces).1.driven = [⟨0x610A444C7364⟩] := by
  have hcut : cutPieces.flatten
      = [.write 0x0A, .drive ⟨0xFFFF610A444C7364⟩, .status].flatMap Request.frame := by decide
  have h := frames_self_delimiting fresh _ _ hcut
  exact ⟨hcut, h.1, h.2.1, h.2.2.1, h.2.2.2.1⟩

end SimBoard

end Breadboard
