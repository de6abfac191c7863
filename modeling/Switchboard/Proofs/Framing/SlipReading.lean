import Switchboard.Proofs.Framing.SlipDecoding

/-!
# Stuffed messages read in two passes

The first pass takes a stream from the left, ESC and the byte after it as one piece, and makes of
each piece a literal, a delimiter or nothing. The second pass splits the literals at the
delimiters; the last segment is the unfinished one. A decoder that takes the stream byte by byte
comes to the same: what it holds stands before the first segment.
-/

namespace Switchboard

namespace Slip

/-- What a stream is cut into. A pair is an ESC and the byte after it, whichever it is, and a torn
one stands at the end of the stream. -/
inductive Piece where
  | single (b : UInt8)
  | pair (partner : UInt8)
  | torn
  deriving DecidableEq

/-- What a piece stands for, if for anything. -/
inductive Sign where
  | literal (b : UInt8)
  | delimiter
  deriving DecidableEq

/-- The pieces of a stream. -/
def pieces : Bytes → List Piece
  | [] => []
  | b :: rest =>
    if b = escByte then
      match rest with
      | [] => [.torn]
      | partner :: later => .pair partner :: pieces later
    else .single b :: pieces rest

def Piece.sign? : Piece → Option Sign
  | .single b => if b = endByte then some .delimiter else some (.literal b)
  | .pair partner =>
    if partner = escEndByte then some (.literal endByte)
    else if partner = escEscByte then some (.literal escByte)
    else none
  | .torn => none

def Sign.isDelimiter : Sign → Bool
  | .literal _ => false
  | .delimiter => true

def Sign.literal? : Sign → Option UInt8
  | .literal b => some b
  | .delimiter => none

/-- The first pass. -/
def signs (stream : Bytes) : List Sign := (pieces stream).filterMap Piece.sign?

/-- The second pass. -/
def split (signs : List Sign) : List Bytes :=
  (signs.splitOnP Sign.isDelimiter).map (List.filterMap Sign.literal?)

/-- The literals of a stream between its delimiters. The last segment is unfinished. -/
def segments (stream : Bytes) : List Bytes := split (signs stream)

/-- Whether the last byte is an ESC that belongs to no earlier one. -/
def endsTorn (stream : Bytes) : Bool := (pieces stream).getLast? = some .torn

variable {b partner : UInt8} {rest : Bytes} {ss : List Sign}

/-! ## The first pass -/

theorem pieces_esc_cons (partner : UInt8) (rest : Bytes) :
    pieces (escByte :: partner :: rest) = .pair partner :: pieces rest := rfl

theorem pieces_cons (h : b ≠ escByte) (rest : Bytes) :
    pieces (b :: rest) = .single b :: pieces rest := by
  rw [pieces.eq_def]
  exact if_neg h

theorem signs_esc_cons (partner : UInt8) (rest : Bytes) :
    signs (escByte :: partner :: rest) = (Piece.pair partner).sign?.toList ++ signs rest := by
  rw [signs, pieces_esc_cons, List.filterMap_cons]
  cases (Piece.pair partner).sign? <;> rfl

theorem signs_end_cons (rest : Bytes) : signs (endByte :: rest) = .delimiter :: signs rest := by
  rw [signs, pieces_cons (by decide), List.filterMap_cons_some (by rw [Piece.sign?, if_pos rfl])]
  rfl

theorem signs_literal_cons (hesc : b ≠ escByte) (hend : b ≠ endByte) (rest : Bytes) :
    signs (b :: rest) = .literal b :: signs rest := by
  rw [signs, pieces_cons hesc, List.filterMap_cons_some (by rw [Piece.sign?, if_neg hend])]
  rfl

/-- Only the last piece can be a torn one. -/
theorem endsTorn_of_pieces_cons (piece : Piece) (hpiece : piece ≠ .torn) {stream : Bytes}
    (h : pieces stream = piece :: pieces rest) : endsTorn stream = endsTorn rest := by
  rw [endsTorn, endsTorn, h, List.getLast?_cons]
  cases hlast : (pieces rest).getLast? with
  | none => simpa using hpiece
  | some last => simp

theorem endsTorn_esc_cons (partner : UInt8) (rest : Bytes) :
    endsTorn (escByte :: partner :: rest) = endsTorn rest :=
  endsTorn_of_pieces_cons (.pair partner) nofun (pieces_esc_cons partner rest)

theorem endsTorn_cons (h : b ≠ escByte) (rest : Bytes) : endsTorn (b :: rest) = endsTorn rest :=
  endsTorn_of_pieces_cons (.single b) nofun (pieces_cons h rest)

/-! ## The second pass -/

theorem split_nil : split [] = [[]] := rfl

theorem split_delimiter_cons (ss : List Sign) : split (.delimiter :: ss) = [] :: split ss := by
  rw [split, List.splitOnP_cons_eq_if_modifyHead, Sign.isDelimiter, if_pos rfl]
  rfl

theorem split_literal_cons (b : UInt8) (ss : List Sign) :
    split (.literal b :: ss) = (split ss).modifyHead (b :: ·) := by
  rw [split, List.splitOnP_cons_eq_if_modifyHead, Sign.isDelimiter, if_neg Bool.false_ne_true,
    split]
  cases List.splitOnP Sign.isDelimiter ss <;> rfl

theorem split_ne_nil (ss : List Sign) : split ss ≠ [] := by
  simp [split, List.splitOnP_ne_nil]

theorem split_map_literal_append (m : Bytes) (ss : List Sign) :
    split (m.map .literal ++ .delimiter :: ss) = m :: split ss := by
  induction m with
  | nil => exact split_delimiter_cons ss
  | cons b m ih =>
    rw [List.map_cons, List.cons_append, split_literal_cons, ih]
    rfl

/-! ## Messages as they are sent -/

/-- The three forms of a stuffed byte. -/
theorem stuff_cases (b : UInt8) :
    (b = endByte ∧ stuff b = [escByte, escEndByte]) ∨
    (b = escByte ∧ stuff b = [escByte, escEscByte]) ∨
    (b ≠ endByte ∧ b ≠ escByte ∧ stuff b = [b]) := by
  by_cases hend : b = endByte
  · subst hend
    exact .inl ⟨rfl, rfl⟩
  by_cases hesc : b = escByte
  · subst hesc
    exact .inr (.inl ⟨rfl, rfl⟩)
  exact .inr (.inr ⟨hend, hesc, by rw [stuff, if_neg hend, if_neg hesc]⟩)

/-- A stuffed byte is one piece, which stands for the byte. -/
theorem exists_pieces_stuff_append (b : UInt8) (rest : Bytes) :
    ∃ piece : Piece, piece ≠ .torn ∧ piece.sign? = some (.literal b) ∧
      pieces (stuff b ++ rest) = piece :: pieces rest := by
  obtain ⟨rfl, hstuff⟩ | ⟨rfl, hstuff⟩ | ⟨hend, hesc, hstuff⟩ := stuff_cases b
  · exact ⟨.pair escEndByte, nofun, rfl, by rw [hstuff]; rfl⟩
  · exact ⟨.pair escEscByte, nofun, rfl, by rw [hstuff]; rfl⟩
  · refine ⟨.single b, nofun, by rw [Piece.sign?, if_neg hend], ?_⟩
    rw [hstuff, List.singleton_append, pieces_cons hesc]

theorem signs_flatMap_stuff_append (m rest : Bytes) :
    signs (m.flatMap stuff ++ rest) = m.map .literal ++ signs rest := by
  induction m with
  | nil => rfl
  | cons b m ih =>
    obtain ⟨piece, -, hsign, hpieces⟩ := exists_pieces_stuff_append b (m.flatMap stuff ++ rest)
    rw [List.flatMap_cons, List.append_assoc, signs, hpieces, List.filterMap_cons_some hsign,
      ← signs, ih, List.map_cons, List.cons_append]

theorem endsTorn_flatMap_stuff_append (m rest : Bytes) :
    endsTorn (m.flatMap stuff ++ rest) = endsTorn rest := by
  induction m with
  | nil => rfl
  | cons b m ih =>
    obtain ⟨piece, hpiece, -, hpieces⟩ := exists_pieces_stuff_append b (m.flatMap stuff ++ rest)
    rw [List.flatMap_cons, List.append_assoc, endsTorn_of_pieces_cons piece hpiece hpieces, ih]

theorem endsTorn_end_cons (rest : Bytes) : endsTorn (endByte :: rest) = endsTorn rest :=
  endsTorn_cons (by decide) rest

theorem encode_append (m rest : Bytes) :
    encode m ++ rest = endByte :: (m.flatMap stuff ++ endByte :: rest) := by
  simp [encode]

/-- A stuffed message up to its closing delimiter finishes one segment. -/
theorem segments_flatMap_stuff_append (m rest : Bytes) :
    segments (m.flatMap stuff ++ endByte :: rest) = m :: segments rest := by
  rw [segments, signs_flatMap_stuff_append, signs_end_cons, split_map_literal_append, segments]

/-- With its opening delimiter it first finishes the one before it. -/
theorem segments_encode_append (m rest : Bytes) :
    segments (encode m ++ rest) = [] :: m :: segments rest := by
  rw [encode_append, segments, signs_end_cons, split_delimiter_cons, ← segments,
    segments_flatMap_stuff_append]

theorem endsTorn_encode_append (m rest : Bytes) :
    endsTorn (encode m ++ rest) = endsTorn rest := by
  rw [encode_append, endsTorn_end_cons, endsTorn_flatMap_stuff_append, endsTorn_end_cons]

theorem segments_encode (m : Bytes) : segments (encode m) = [[], m, []] := by
  have h := segments_encode_append m []
  rwa [List.append_nil] at h

theorem endsTorn_encode (m : Bytes) : endsTorn (encode m) = false := by
  have h := endsTorn_encode_append m []
  rwa [List.append_nil] at h

/-- An ESC before the message takes its opening delimiter away. -/
theorem segments_esc_encode_append (m rest : Bytes) :
    segments (escByte :: (encode m ++ rest)) = m :: segments rest := by
  rw [encode_append, segments, signs_esc_cons]
  exact segments_flatMap_stuff_append m rest

theorem endsTorn_esc_encode_append (m rest : Bytes) :
    endsTorn (escByte :: (encode m ++ rest)) = endsTorn rest := by
  rw [encode_append, endsTorn_esc_cons, endsTorn_flatMap_stuff_append, endsTorn_end_cons]

end Slip

namespace SlipFramer

open Slip

variable {limit : Nat} {held : Array UInt8} {rest : Bytes} {first : Bytes} {more : List Bytes}

/-- What comes of segments, the last of which is unfinished. -/
def answer (limit : Nat) (segments : List Bytes) (torn : Bool) :
    Except TransportError (List Bytes) × SlipFramer :=
  if ∃ s ∈ segments, limit < s.length then
    (.error (.messageTooLarge (limit + 1) limit), { limit := limit })
  else
    (.ok (segments.dropLast.filter (· ≠ [])),
      { limit := limit, pending := (segments.getLastD []).toArray, escaped := torn })

/-- A segment that is not finished is held. -/
theorem answer_singleton (hfirst : first.length ≤ limit) (torn : Bool) :
    answer limit [first] torn = (.ok [], ⟨limit, first.toArray, torn⟩) := by
  have hshort : ¬ ∃ s ∈ [first], limit < s.length := by simpa using hfirst
  rw [answer, if_neg hshort]
  rfl

/-- A finished segment that fits is a message, unless it is empty. -/
theorem answer_cons (hfirst : first.length ≤ limit) (hmore : more ≠ []) (torn : Bool) :
    answer limit (first :: more) torn =
      ((answer limit more torn).1.map ((if first = [] then [] else [first]) ++ ·),
        (answer limit more torn).2) := by
  have hlong : (∃ s ∈ first :: more, limit < s.length) ↔ ∃ s ∈ more, limit < s.length := by
    simp [Nat.not_lt.2 hfirst]
  have hlast : (first :: more).getLastD [] = more.getLastD [] := by
    cases more with
    | nil => exact absurd rfl hmore
    | cons second more => rfl
  by_cases hmany : ∃ s ∈ more, limit < s.length
  · rw [answer, if_pos (hlong.2 hmany), answer, if_pos hmany]
    rfl
  · rw [answer, if_neg (mt hlong.1 hmany), answer, if_neg hmany, hlast,
      List.dropLast_cons_of_ne_nil hmore]
    by_cases hempty : first = [] <;> simp [hempty, Except.map]

/-- A segment that begins with too many literals is refused. -/
theorem answer_of_lt (hfirst : limit < first.length) (torn : Bool) :
    answer limit (first :: more) torn =
      (.error (.messageTooLarge (limit + 1) limit), { limit := limit }) :=
  if_pos ⟨first, List.mem_cons_self, hfirst⟩

/-- Segments that are all finished leave the decoder fresh, if none of them is too long. -/
theorem answer_finished_eq_ok_iff {segments messages : List Bytes} {g : SlipFramer} :
    answer limit (segments ++ [[]]) false = (.ok messages, g) ↔
      (∀ s ∈ segments, s.length ≤ limit) ∧ messages = segments.filter (· ≠ []) ∧
        g = { limit := limit } := by
  have hlong : (∃ s ∈ segments ++ [[]], limit < s.length) ↔ ¬ ∀ s ∈ segments, s.length ≤ limit := by
    simp
  by_cases hfits : ∀ s ∈ segments, s.length ≤ limit
  · rw [answer, if_neg (fun h => hlong.1 h hfits), List.dropLast_concat, List.getLastD_concat]
    constructor
    · intro h
      cases h
      exact ⟨hfits, rfl, rfl⟩
    · rintro ⟨-, rfl, rfl⟩
      rfl
  · rw [answer, if_pos (hlong.2 hfits)]
    constructor
    · intro h
      cases h
    · intro h
      exact absurd h.1 hfits

/-! ## One byte, one piece -/

/-- A byte that adds a literal makes what is held longer by one, which may be one too many. -/
theorem decode_cons_literal {f : SlipFramer} {b c : UInt8}
    (hstep : f.step b = (none, ⟨limit, held.push c, false⟩)) (hheld : held.size ≤ limit)
    (rest : Bytes) :
    f.decode (b :: rest) =
      if held.size = limit then
        (.error (.messageTooLarge (limit + 1) limit), { limit := limit })
      else decode ⟨limit, held.push c, false⟩ rest := by
  have hlimit : f.limit = limit := by
    rw [← step_limit f b, hstep]
  rw [decode_cons, hstep, hlimit, Array.size_push]
  by_cases hfull : held.size = limit
  · rw [if_pos (by omega), if_pos hfull, hfull, clear, hlimit]
  · rw [if_neg (by omega), if_neg hfull]
    exact Prod.ext (by cases (decode ⟨limit, held.push c, false⟩ rest).1 <;> rfl) rfl

/-- A byte that adds nothing is passed over. -/
theorem decode_cons_silent {f g : SlipFramer} {b : UInt8} (hstep : f.step b = (none, g))
    (hg : g.pending.size ≤ g.limit) (rest : Bytes) : f.decode (b :: rest) = g.decode rest := by
  have hlimit : f.limit = g.limit := by
    rw [← step_limit f b, hstep]
  rw [decode_cons, hstep, hlimit, if_neg (Nat.not_lt.2 hg)]
  exact Prod.ext (by cases (g.decode rest).1 <;> rfl) rfl

/-- A delimiter gives what is held free. -/
theorem decode_cons_end (held : Array UInt8) (rest : Bytes) :
    decode ⟨limit, held, false⟩ (endByte :: rest) =
      ((decode { limit := limit } rest).1.map
          ((if held.toList = [] then [] else [held.toList]) ++ ·),
        (decode { limit := limit } rest).2) := by
  obtain ⟨held⟩ := held
  cases held with
  | nil =>
    rw [decode_cons_silent (g := { limit := limit }) rfl (Nat.zero_le _)]
    exact Prod.ext (by cases (decode { limit := limit } rest).1 <;> rfl) rfl
  | cons c held =>
    rw [decode_cons]
    rfl

/-! ## A whole stream -/

/-- What a decoder holds that holds nothing. -/
theorem modifyHead_nil_append (segments : List Bytes) :
    segments.modifyHead (#[].toList ++ ·) = segments := by
  cases segments <;> rfl

/-- A byte that adds a literal keeps up with the two passes if the rest of the stream does. -/
theorem decode_cons_eq_answer_of_literal {f : SlipFramer} {b c : UInt8} {stream : Bytes}
    (hstep : f.step b = (none, ⟨limit, held.push c, false⟩)) (hheld : held.size ≤ limit)
    (hsigns : signs stream = .literal c :: signs rest) (htorn : endsTorn stream = endsTorn rest)
    (ih : ∀ held : Array UInt8, held.size ≤ limit → decode ⟨limit, held, false⟩ rest =
      answer limit ((segments rest).modifyHead (held.toList ++ ·)) (endsTorn rest)) :
    f.decode (b :: rest) =
      answer limit ((segments stream).modifyHead (held.toList ++ ·)) (endsTorn stream) := by
  have hsegments : (segments stream).modifyHead (held.toList ++ ·) =
      (segments rest).modifyHead ((held.push c).toList ++ ·) := by
    rw [segments, hsigns, split_literal_cons, List.modifyHead_modifyHead, segments]
    congr 1
    funext s
    simp
  rw [decode_cons_literal hstep hheld, hsegments, htorn]
  by_cases hfull : held.size = limit
  · obtain ⟨first, more, hsplit⟩ := List.exists_cons_of_ne_nil (split_ne_nil (signs rest))
    have hlong : limit < ((held.push c).toList ++ first).length := by
      rw [List.length_append, Array.length_toList, Array.size_push]
      omega
    rw [if_pos hfull, segments, hsplit, List.modifyHead_cons, answer_of_lt hlong]
  · rw [if_neg hfull]
    apply ih
    rw [Array.size_push]
    omega

/-- **Decoding is reading in two passes.** From a decoder that holds no more than its limit and
waits for no partner, a stream comes to what its segments come to, the first of which goes on with
what is held. -/
theorem decode_eq_answer (held : Array UInt8) (hheld : held.size ≤ limit) (stream : Bytes) :
    decode ⟨limit, held, false⟩ stream =
      answer limit ((segments stream).modifyHead (held.toList ++ ·)) (endsTorn stream) := by
  -- The induction is on the pieces, since only between two of them no ESC waits.
  fun_induction pieces stream generalizing held with
  | case1 =>
    have hsegments : (segments []).modifyHead (held.toList ++ ·) = [held.toList] := by
      rw [segments, signs, pieces, List.filterMap_nil, split_nil, List.modifyHead_cons,
        List.append_nil]
    rw [hsegments, answer_singleton (by simpa using hheld)]
    rfl
  | case2 =>
    have hsegments : (segments [escByte]).modifyHead (held.toList ++ ·) = [held.toList] := by
      rw [segments, signs, pieces, if_pos rfl, List.filterMap_cons_none rfl, List.filterMap_nil,
        split_nil, List.modifyHead_cons, List.append_nil]
    rw [hsegments, answer_singleton (by simpa using hheld),
      decode_cons_silent (g := ⟨limit, held, true⟩) rfl hheld]
    rfl
  | case3 partner rest ih =>
    have htorn := endsTorn_esc_cons partner rest
    rw [decode_cons_silent (g := ⟨limit, held, true⟩) rfl hheld]
    by_cases hend : partner = escEndByte
    · subst hend
      exact decode_cons_eq_answer_of_literal rfl hheld (signs_esc_cons _ _) htorn ih
    by_cases hesc : partner = escEscByte
    · subst hesc
      exact decode_cons_eq_answer_of_literal rfl hheld (signs_esc_cons _ _) htorn ih
    have hstep : step ⟨limit, held, true⟩ partner = (none, ⟨limit, held, false⟩) := by
      simp only [step, if_pos, if_neg hend, if_neg hesc]
    have hsigns : signs (escByte :: partner :: rest) = signs rest := by
      rw [signs_esc_cons, Piece.sign?, if_neg hend, if_neg hesc]
      rfl
    rw [decode_cons_silent hstep hheld, ih held hheld, htorn, segments, segments, hsigns]
  | case4 b rest hesc ih =>
    have htorn := endsTorn_cons hesc rest
    by_cases hend : b = endByte
    · subst hend
      rw [decode_cons_end, ih #[] (Nat.zero_le _), modifyHead_nil_append, htorn, segments,
        segments, signs_end_cons, split_delimiter_cons, List.modifyHead_cons, List.append_nil,
        answer_cons (by simpa using hheld) (split_ne_nil _)]
    · have hstep : step ⟨limit, held, false⟩ b = (none, ⟨limit, held.push b, false⟩) := by
        simp only [step, Bool.false_eq_true, if_false, if_neg hesc, if_neg hend]
      have hsigns : signs (b :: rest) = .literal b :: signs rest := signs_literal_cons hesc hend rest
      exact decode_cons_eq_answer_of_literal hstep hheld hsigns htorn ih

/-- With an ESC waiting for its partner, the stream is read as one that begins with ESC. -/
theorem decode_escaped (held : Array UInt8) (hheld : held.size ≤ limit) (stream : Bytes) :
    decode ⟨limit, held, true⟩ stream = decode ⟨limit, held, false⟩ (escByte :: stream) :=
  (decode_cons_silent (g := ⟨limit, held, true⟩) rfl hheld stream).symm

/-- **A fresh decoder reads a stream in two passes.** It refuses the stream exactly when some
segment, the unfinished one included, is longer than the limit. Otherwise the finished segments
that are not empty are its messages, the unfinished one is held, and an ESC waits for its partner
if the stream ends in one that belongs to no earlier ESC. -/
theorem decode_eq_two_passes (limit : Nat) (stream : Bytes) :
    decode { limit := limit } stream =
      if ∃ s ∈ segments stream, limit < s.length then
        (.error (.messageTooLarge (limit + 1) limit), { limit := limit })
      else
        (.ok ((segments stream).dropLast.filter (· ≠ [])),
          { limit := limit
            pending := ((segments stream).getLastD []).toArray
            escaped := endsTorn stream }) := by
  have hdecode : decode { limit := limit } stream =
      answer limit ((segments stream).modifyHead (#[].toList ++ ·)) (endsTorn stream) :=
    decode_eq_answer #[] (Nat.zero_le _) stream
  rw [modifyHead_nil_append] at hdecode
  exact hdecode

/-- An ESC before END takes the delimiter away, and one before ESC stands for nothing, as does a
delimiter that follows another. -/
example : decode { limit := 2 } [0xDB, 0xC0, 0x61, 0xC0, 0xC0, 0xDB, 0xDB, 0xDC, 0xDB] =
    (.ok [[0x61]], ⟨2, #[0xDC], true⟩) :=
  rfl

end SlipFramer

end Switchboard
