import VideoTerminal.Transport.ByteStream

/-!
A stream of bytes decoded read by read. A character that a read breaks off is
held back and completed by the next one, as long as nothing before it in the
read is ill-formed; otherwise it is given up at once, and what the next read
continues of it is ill-formed as well. The text delivered is then longer than
that of the same bytes decoded as a whole, and in every other case the same.
-/

namespace VideoTerminal

namespace Text

namespace Reading

variable {reading : Reading} {bytes : List UInt8}

/-! ## What comes after characters that are read already -/

/-- The reading after another one of which these are the characters. -/
def after (reading : Reading) (chars : Array Char) (sound : Bool) : Reading :=
  { reading with chars := chars ++ reading.chars, sound := sound && reading.sound }

/-- What a reading leaves to be read again once its characters are delivered. -/
def remainder (reading : Reading) : Reading :=
  { unfinished := reading.unfinished, held := reading.held }

theorem start_after
    (reading : Reading) (chars : Array Char) (sound : Bool) (byte : UInt8) :
    (reading.after chars sound).start byte = (reading.start byte).after chars sound := by
  simp only [start, after]
  split <;> simp

theorem step_after
    (reading : Reading) (chars : Array Char) (sound : Bool) (byte : UInt8) :
    (reading.after chars sound).step byte = (reading.step byte).after chars sound := by
  have sameUnfinished : (reading.after chars sound).unfinished = reading.unfinished := rfl
  rw [step, step, sameUnfinished]
  cases reading.unfinished with
  | none => exact start_after reading chars sound byte
  | some unfinished =>
      dsimp only
      split
      · split <;> simp [after]
      · rw [← start_after]
        simp [after]

theorem foldl_step_after
    (reading : Reading) (chars : Array Char) (sound : Bool) (bytes : List UInt8) :
    bytes.foldl step (reading.after chars sound) =
      (bytes.foldl step reading).after chars sound := by
  induction bytes generalizing reading with
  | nil => rfl
  | cons byte rest inductionHypothesis =>
      rw [List.foldl_cons, step_after, inductionHypothesis]
      rfl

theorem final_after (reading : Reading) (chars : Array Char) (sound : Bool) :
    (reading.after chars sound).final = chars.toList ++ reading.final := by
  have sameUnfinished : (reading.after chars sound).unfinished = reading.unfinished := rfl
  rw [final, final, sameUnfinished]
  cases reading.unfinished <;> simp [after]

/-! ## What is held back -/

/-- The bytes that are held back are those of the unfinished character. -/
def Replays (reading : Reading) : Prop :=
  ofBytes reading.held = reading.remainder

theorem replays_start (reading : Reading) (byte : UInt8) : (reading.start byte).Replays := by
  simp only [Replays, start]
  split
  · rfl
  · next unfinished lead =>
      simp only [ofBytes, List.foldl_cons, List.foldl_nil, step, start, lead, remainder]
  · rfl

theorem ofBytes_append (first second : List UInt8) :
    ofBytes (first ++ second) = second.foldl step (ofBytes first) :=
  List.foldl_append

theorem Replays.step (replays : reading.Replays) (byte : UInt8) :
    (reading.step byte).Replays := by
  rw [Reading.step]
  split
  · exact replays_start reading byte
  · next unfinished broken =>
      split
      · next continues =>
          dsimp only
          split
          · rfl
          · next more =>
              rw [Replays] at replays ⊢
              rw [ofBytes_append, replays, List.foldl_cons, List.foldl_nil, Reading.step]
              simp only [remainder, broken, if_pos continues, if_neg more]
      · exact replays_start _ byte

theorem replays_ofBytes (bytes : List UInt8) : (ofBytes bytes).Replays :=
  List.foldlRecOn bytes step (motive := Replays) rfl fun _ replays byte _ => replays.step byte

/-- Once the characters read are delivered, the bytes held back stand for all
that was read. -/
theorem ofBytes_append_eq_after (first second : List UInt8) :
    ofBytes (first ++ second) =
      (ofBytes ((ofBytes first).held ++ second)).after (ofBytes first).chars
        (ofBytes first).sound := by
  have same :
      (ofBytes first).remainder.after (ofBytes first).chars (ofBytes first).sound =
        ofBytes first := by
    simp [remainder, after]
  have replays : ofBytes (ofBytes first).held = (ofBytes first).remainder := replays_ofBytes first
  rw [ofBytes_append, ofBytes_append, replays, ← foldl_step_after, same]

end Reading

open Reading

theorem decodeUtf8_append (first second : List UInt8) :
    decodeUtf8 (first ++ second) =
      (ofBytes first).chars.toList ++ decodeUtf8 ((ofBytes first).held ++ second) := by
  rw [decodeUtf8, ofBytes_append_eq_after, final_after]
  rfl

/-! ## Characters that go on -/

/-- The character goes on with this byte. -/
def Unfinished.continuedBy (unfinished : Unfinished) (byte : UInt8) : Bool :=
  unfinished.low ≤ byte.toNat && byte.toNat ≤ unfinished.high

/-- The bytes that the character goes on with begin no character. -/
def Unfinished.Proper (unfinished : Unfinished) : Prop :=
  0x80 ≤ unfinished.low ∧ unfinished.high ≤ 0xbf

theorem Lead.proper_of_ofByte
    {byte : Nat} {unfinished : Unfinished}
    (begins : ofByte byte = .start unfinished) :
    unfinished.Proper := by
  rw [ofByte] at begins
  split at begins
  · cases begins
  · split at begins
    · cases begins
    · split at begins
      · cases begins
        exact ⟨Nat.le_refl _, Nat.le_refl _⟩
      · split at begins
        · cases begins
          constructor <;> dsimp only <;> split <;> omega
        · split at begins
          · cases begins
            constructor <;> dsimp only <;> split <;> omega
          · cases begins

theorem Lead.ofByte_of_continuedBy
    {unfinished : Unfinished} {byte : UInt8}
    (proper : unfinished.Proper)
    (continues : unfinished.continuedBy byte = true) :
    ofByte byte.toNat = .illFormed := by
  simp only [Unfinished.continuedBy, Bool.and_eq_true, decide_eq_true_eq] at continues
  obtain ⟨lower, upper⟩ := proper
  rw [ofByte, if_neg (by omega), if_pos (by omega)]

namespace Reading

variable {reading : Reading} {bytes : List UInt8}

/-- The bytes that come next go on with the unfinished character. -/
def goesOn (reading : Reading) (bytes : List UInt8) : Bool :=
  match reading.unfinished, bytes with
  | some unfinished, next :: _ => unfinished.continuedBy next
  | _, _ => false

/-- What is unfinished does not go on with a byte that begins a character. -/
def Proper (reading : Reading) : Prop :=
  ∀ unfinished ∈ reading.unfinished, unfinished.Proper

theorem proper_start (reading : Reading) (byte : UInt8) : (reading.start byte).Proper := by
  intro unfinished member
  simp only [start] at member
  split at member
  · cases member
  · next begins =>
      cases member
      exact Lead.proper_of_ofByte begins
  · cases member

theorem proper_step (reading : Reading) (byte : UInt8) : (reading.step byte).Proper := by
  rw [step]
  split
  · exact proper_start reading byte
  · split
    · dsimp only
      split
      · nofun
      · rintro unfinished ⟨⟩
        exact ⟨Nat.le_refl _, Nat.le_refl _⟩
    · exact proper_start _ byte

theorem proper_ofBytes (bytes : List UInt8) : (ofBytes bytes).Proper :=
  List.foldlRecOn bytes step (motive := Proper) nofun fun reading _ byte _ =>
    proper_step reading byte

/-- A byte that does not go on with the unfinished character is read as if it
came first, after all that was read. -/
theorem step_of_not_goesOn
    {byte : UInt8} {rest : List UInt8}
    (ends : reading.goesOn (byte :: rest) = false) :
    reading.step byte =
      (step {} byte).after reading.final.toArray
        (reading.sound && reading.unfinished.isNone) := by
  have begins (chars : Array Char) (sound : Bool) (held : List UInt8) :
      start { chars, sound, held } byte = (step {} byte).after chars sound := by
    simp only [step, start, after]
    split <;> simp
  obtain ⟨chars, sound, unfinished, held⟩ := reading
  cases unfinished with
  | none => simpa [step, final] using begins chars sound held
  | some unfinished =>
      have broken : ¬(unfinished.low ≤ byte.toNat ∧ byte.toNat ≤ unfinished.high) := by
        simpa [goesOn, Unfinished.continuedBy] using ends
      have ended : (chars.toList ++ [replacement]).toArray = chars.push replacement := by
        rw [← Array.toList_push, Array.toArray_toList]
      rw [step]
      simp only [if_neg broken, final, ended, Option.isNone_some, Bool.and_false]
      exact begins (chars.push replacement) false []

theorem final_foldl_of_not_goesOn (ends : reading.goesOn bytes = false) :
    (bytes.foldl step reading).final = reading.final ++ decodeUtf8 bytes := by
  cases bytes with
  | nil => exact (List.append_nil _).symm
  | cons byte rest =>
      rw [List.foldl_cons, step_of_not_goesOn ends, foldl_step_after, final_after]
      rfl

theorem decodeUtf8_cons_of_illFormed
    {byte : UInt8}
    (illFormed : Lead.ofByte byte.toNat = .illFormed)
    (rest : List UInt8) :
    decodeUtf8 (byte :: rest) = replacement :: decodeUtf8 rest := by
  have begins : step {} byte = after {} #[replacement] false := by
    simp only [step, start, illFormed]
    rfl
  rw [decodeUtf8, ofBytes, List.foldl_cons, begins, foldl_step_after, final_after]
  rfl

theorem length_final_step_of_goesOn
    {byte : UInt8} {rest : List UInt8}
    (goes : reading.goesOn (byte :: rest) = true) :
    (reading.step byte).final.length = reading.final.length := by
  obtain ⟨chars, sound, unfinished, held⟩ := reading
  cases unfinished with
  | none => exact absurd goes Bool.false_ne_true
  | some unfinished =>
      have continues : unfinished.low ≤ byte.toNat ∧ byte.toNat ≤ unfinished.high := by
        simpa [goesOn, Unfinished.continuedBy] using goes
      rw [step]
      simp only [if_pos continues]
      split <;> simp [final]

/-- Bytes take no fewer characters when they are read apart from what was read
before them, and more when they go on with a character. -/
theorem length_final_foldl_le (bytes : List UInt8) (proper : reading.Proper) :
    (bytes.foldl step reading).final.length + (reading.goesOn bytes).toNat ≤
      reading.final.length + (decodeUtf8 bytes).length := by
  induction bytes generalizing reading with
  | nil =>
      rw [final_foldl_of_not_goesOn (by simp [goesOn])]
      simp [goesOn]
  | cons byte rest inductionHypothesis =>
      cases goes : reading.goesOn (byte :: rest) with
      | false =>
          rw [final_foldl_of_not_goesOn goes, List.length_append]
          exact Nat.le_refl _
      | true =>
          obtain ⟨unfinished, broken, continues⟩ :
              ∃ unfinished, reading.unfinished = some unfinished ∧
                unfinished.continuedBy byte = true := by
            cases broken : reading.unfinished with
            | none => simp [goesOn, broken] at goes
            | some unfinished => exact ⟨unfinished, rfl, by simpa [goesOn, broken] using goes⟩
          have illFormed := Lead.ofByte_of_continuedBy (proper unfinished broken) continues
          have later := inductionHypothesis (proper_step reading byte)
          rw [length_final_step_of_goesOn goes] at later
          rw [decodeUtf8_cons_of_illFormed illFormed, List.foldl_cons, List.length_cons,
            Bool.toNat_true]
          omega

end Reading

/-! ## Pieces -/

/-- What pieces are decoded to one after the other, with bytes held back before
them. Bytes that are still held back at the end are decoded as they are. -/
def decodePieces (held : List UInt8) : List (List UInt8) → List Char
  | [] => decodeUtf8 held
  | piece :: rest =>
      (decodeChunk held piece).1 ++ decodePieces (decodeChunk held piece).2 rest

/-- Some piece ends within a character that goes on after it, with something
ill-formed before that character among the bytes held back and the piece. -/
def severs (held : List UInt8) : List (List UInt8) → Bool
  | [] => false
  | piece :: rest =>
      let reading := Reading.ofBytes (held ++ piece)
      if reading.sound then severs reading.held rest
      else reading.goesOn rest.flatten || severs [] rest

theorem decodePieces_cons_of_sound
    {held piece : List UInt8}
    (sound : (Reading.ofBytes (held ++ piece)).sound = true)
    (rest : List (List UInt8)) :
    decodePieces held (piece :: rest) =
      (Reading.ofBytes (held ++ piece)).chars.toList ++
        decodePieces (Reading.ofBytes (held ++ piece)).held rest := by
  simp only [decodePieces, decodeChunk, sound, if_true]

theorem decodePieces_cons_of_not_sound
    {held piece : List UInt8}
    (faulty : (Reading.ofBytes (held ++ piece)).sound = false)
    (rest : List (List UInt8)) :
    decodePieces held (piece :: rest) =
      (Reading.ofBytes (held ++ piece)).final ++ decodePieces [] rest := by
  simp only [decodePieces, decodeChunk, faulty, Bool.false_eq_true, if_false]

/-- Pieces in which no character is severed are decoded as the whole that they
make up. -/
theorem decodePieces_of_not_severs
    {held : List UInt8} {pieces : List (List UInt8)}
    (whole : severs held pieces = false) :
    decodePieces held pieces = decodeUtf8 (held ++ pieces.flatten) := by
  induction pieces generalizing held with
  | nil => simp [decodePieces]
  | cons piece rest inductionHypothesis =>
      rw [severs] at whole
      rw [List.flatten_cons, ← List.append_assoc]
      cases sound : (Reading.ofBytes (held ++ piece)).sound with
      | true =>
          simp only [sound, if_true] at whole
          rw [decodePieces_cons_of_sound sound, decodeUtf8_append, inductionHypothesis whole]
      | false =>
          simp only [sound, Bool.false_eq_true, if_false, Bool.or_eq_false_iff] at whole
          rw [decodePieces_cons_of_not_sound sound, inductionHypothesis whole.2,
            List.nil_append, ← Reading.final_foldl_of_not_goesOn whole.1,
            ← Reading.ofBytes_append]
          rfl

/-- Pieces are decoded to no fewer characters than the whole that they make up,
and to more when a character is severed. -/
theorem length_decodeUtf8_le (held : List UInt8) (pieces : List (List UInt8)) :
    (decodeUtf8 (held ++ pieces.flatten)).length + (severs held pieces).toNat ≤
      (decodePieces held pieces).length := by
  induction pieces generalizing held with
  | nil => simp [decodePieces, severs]
  | cons piece rest inductionHypothesis =>
      rw [List.flatten_cons, ← List.append_assoc, severs]
      cases sound : (Reading.ofBytes (held ++ piece)).sound with
      | true =>
          have later := inductionHypothesis (Reading.ofBytes (held ++ piece)).held
          rw [if_pos rfl, decodePieces_cons_of_sound sound, decodeUtf8_append,
            List.length_append, List.length_append]
          omega
      | false =>
          have later := inductionHypothesis []
          have here :=
            Reading.length_final_foldl_le rest.flatten (Reading.proper_ofBytes (held ++ piece))
          have either (first second : Bool) :
              (first || second).toNat ≤ first.toNat + second.toNat := by
            cases first <;> cases second <;> decide
          have severed :=
            either ((Reading.ofBytes (held ++ piece)).goesOn rest.flatten) (severs [] rest)
          rw [← Reading.ofBytes_append] at here
          rw [List.nil_append] at later
          rw [if_neg Bool.false_ne_true, decodePieces_cons_of_not_sound sound, decodeUtf8,
            List.length_append]
          omega

theorem decodePieces_eq_iff {held : List UInt8} {pieces : List (List UInt8)} :
    decodePieces held pieces = decodeUtf8 (held ++ pieces.flatten) ↔
      severs held pieces = false := by
  constructor
  · intro same
    have lengths := length_decodeUtf8_le held pieces
    rw [same] at lengths
    cases severed : severs held pieces with
    | false => rfl
    | true =>
        rw [severed, Bool.toNat_true] at lengths
        omega
  · exact decodePieces_of_not_severs

/-- In well-formed bytes no character is severed, wherever they are cut. -/
theorem not_severs_of_sound
    {held : List UInt8} {pieces : List (List UInt8)}
    (sound : (Reading.ofBytes (held ++ pieces.flatten)).sound = true) :
    severs held pieces = false := by
  induction pieces generalizing held with
  | nil => rfl
  | cons piece rest inductionHypothesis =>
      rw [List.flatten_cons, ← List.append_assoc, Reading.ofBytes_append_eq_after,
        Reading.after, Bool.and_eq_true] at sound
      rw [severs, if_pos sound.1]
      exact inductionHypothesis sound.2

theorem decodePieces_of_decodeUtf8?
    {pieces : List (List UInt8)} {text : List Char}
    (wellFormed : decodeUtf8? pieces.flatten = some text) :
    decodePieces [] pieces = text := by
  rw [decodeUtf8?] at wellFormed
  split at wellFormed
  · next complete =>
      rw [Bool.and_eq_true, Option.isNone_iff_eq_none] at complete
      rw [decodePieces_of_not_severs (not_severs_of_sound complete.1), List.nil_append,
        decodeUtf8, Reading.final, complete.2]
      exact Option.some.inj wellFormed
  · cases wellFormed

end Text

namespace Transport

open Text

/-! ## Reads -/

/-- The bytes that some reads give up to the end of the stream, read by read. -/
def Read.pieces : List Read → List (List UInt8)
  | Read.bytes (byte :: more) :: rest => (byte :: more) :: pieces rest
  | Read.interrupted :: rest => pieces rest
  | Read.bytes [] :: _ | Read.broken :: _ | [] => []

/-- The text that an event delivers. -/
def Event.chars : Event → List Char
  | Event.text delivered => delivered
  | Event.connection _ => []

theorem chars_readEvents (held : List UInt8) (reads : List Read) :
    (readEvents held reads).flatMap Event.chars = decodePieces held (Read.pieces reads) := by
  have delivered (text : List Char) :
      (if text.isEmpty then [] else [Event.text text]).flatMap Event.chars = text := by
    cases text <;> simp [Event.chars]
  have ended (held : List UInt8) :
      ((if held.isEmpty then [] else [Event.text (decodeUtf8 held)]) ++
        [Event.connection false]).flatMap Event.chars = decodeUtf8 held := by
    cases held with
    | nil => rfl
    | cons byte rest => simp [Event.chars]
  induction reads generalizing held with
  | nil => exact ended held
  | cons read rest inductionHypothesis =>
      cases read with
      | bytes found =>
          cases found with
          | nil => exact ended held
          | cons byte more =>
              rw [readEvents, List.flatMap_append, delivered, inductionHypothesis]
              rfl
      | interrupted => exact inductionHypothesis held
      | broken => exact ended held

theorem flatten_piecesWithin
    {limit fuel : Nat} {bytes : List UInt8}
    (limitPositive : 0 < limit)
    (enough : bytes.length ≤ fuel) :
    (piecesWithin limit bytes fuel).flatten = bytes := by
  induction fuel generalizing bytes with
  | zero => rw [List.eq_nil_of_length_eq_zero (Nat.le_zero.mp enough), piecesWithin]; rfl
  | succ fuel inductionHypothesis =>
      cases bytes with
      | nil => rfl
      | cons byte more =>
          have shorter : ((byte :: more).drop limit).length ≤ fuel := by
            rw [List.length_drop]
            rw [List.length_cons] at enough ⊢
            omega
          rw [piecesWithin, List.isEmpty_cons, if_neg Bool.false_ne_true, List.flatten_cons,
            inductionHypothesis shorter, List.take_append_drop]

theorem ne_nil_of_mem_piecesWithin
    {limit fuel : Nat} {bytes piece : List UInt8}
    (limitPositive : 0 < limit)
    (member : piece ∈ piecesWithin limit bytes fuel) :
    piece ≠ [] := by
  induction fuel generalizing bytes with
  | zero => cases member
  | succ fuel inductionHypothesis =>
      cases bytes with
      | nil => cases member
      | cons byte more =>
          rw [piecesWithin, List.isEmpty_cons, if_neg Bool.false_ne_true, List.mem_cons] at member
          rcases member with rfl | member
          · rw [Ne, List.take_eq_nil_iff]
            rintro (none | none)
            · exact Nat.ne_of_gt limitPositive none
            · cases none
          · exact inductionHypothesis member

theorem Read.pieces_append_of_ne_nil
    {found : List (List UInt8)}
    (filled : ∀ piece ∈ found, piece ≠ [])
    (rest : List Read) :
    Read.pieces (found.map Read.bytes ++ rest) = found ++ Read.pieces rest := by
  induction found with
  | nil => rfl
  | cons piece more inductionHypothesis =>
      cases piece with
      | nil => exact absurd rfl (filled [] List.mem_cons_self)
      | cons byte bytes =>
          rw [List.map_cons, List.cons_append, List.cons_append, Read.pieces,
            inductionHypothesis fun piece member => filled piece (List.mem_cons_of_mem _ member)]

/-- A piece longer than the buffer is read in several, and nothing of it is
lost. -/
theorem Read.flatten_pieces_split (reads : List Read) :
    (Read.pieces (reads.flatMap Read.split)).flatten = (Read.pieces reads).flatten := by
  induction reads with
  | nil => rfl
  | cons read rest inductionHypothesis =>
      cases read with
      | bytes found =>
          cases found with
          | nil => rfl
          | cons byte more =>
              have limitPositive : 0 < readLimit := by decide
              rw [List.flatMap_cons, Read.split, Read.pieces_append_of_ne_nil
                fun piece member => ne_nil_of_mem_piecesWithin limitPositive member,
                List.flatten_append, flatten_piecesWithin limitPositive (Nat.le_refl _),
                inductionHypothesis, Read.pieces, List.flatten_cons]
              · nofun
      | interrupted => exact inductionHypothesis
      | broken => rfl

/-! ## Streams -/

namespace ByteStream

/-- The reads of a stream, each within the buffer, as they are when it is
started. -/
def pieces (stream : ByteStream) : List (List UInt8) :=
  Read.pieces ((stream.reads.getD []).flatMap Read.split)

/-- The bytes of a stream up to its end. -/
def content (stream : ByteStream) : List UInt8 :=
  (Read.pieces (stream.reads.getD [])).flatten

/-- A stream delivers the text of its bytes decoded as a whole just if no read
severs a character, and more than that otherwise. When the bytes are
well-formed it delivers what they encode, however they are read. -/
theorem chars_start
    {stream : ByteStream}
    (fresh : stream.reads.isSome = true) :
    ∃ started events,
      stream.start = .ok (started, events) ∧
        stream.pieces.flatten = stream.content ∧
        (decodeUtf8 stream.content).length ≤ (events.flatMap Event.chars).length ∧
        (events.flatMap Event.chars = decodeUtf8 stream.content ↔
          severs [] stream.pieces = false) ∧
        ∀ text, decodeUtf8? stream.content = some text → events.flatMap Event.chars = text := by
  rcases Option.isSome_iff_exists.mp fresh with ⟨reads, given⟩
  have delivered :
      (Event.connection true :: readEvents [] (reads.flatMap Read.split)).flatMap Event.chars =
        decodePieces [] stream.pieces := by
    rw [List.flatMap_cons, chars_readEvents, pieces, given]
    rfl
  have whole : stream.pieces.flatten = stream.content := Read.flatten_pieces_split _
  refine ⟨_, _, by rw [start, given], whole, ?_, ?_, ?_⟩
  · have lengths := length_decodeUtf8_le [] stream.pieces
    rw [List.nil_append, whole] at lengths
    rw [delivered]
    exact Nat.le_of_add_right_le lengths
  · rw [delivered, ← decodePieces_eq_iff, List.nil_append, whole]
  · intro text wellFormed
    rw [delivered]
    rw [← whole] at wellFormed
    exact decodePieces_of_decodeUtf8? wellFormed

/-- The last bytes of a first read that begins with an ill-formed one are the
beginning of `€`. The second read is interrupted, the third gives the rest. -/
theorem chars_start_severed :
    let stream : ByteStream :=
      { reads := some [.bytes [0xff, 0xe2, 0x82], .interrupted, .bytes [0xac, 0x41], .broken] }
    ∃ started events,
      stream.start = .ok (started, events) ∧
        stream.content = [0xff, 0xe2, 0x82, 0xac, 0x41] ∧
        severs [] stream.pieces = true ∧
        events.flatMap Event.chars ≠ decodeUtf8 stream.content := by
  intro stream
  have fresh : stream.reads.isSome = true := rfl
  rcases chars_start fresh with ⟨started, events, start, -, -, same, -⟩
  have severed : severs [] stream.pieces = true := by decide +kernel
  refine ⟨started, events, start, by decide +kernel, severed, ?_⟩
  rw [Ne, same, severed]
  exact Bool.noConfusion

/-- The same bytes give different text when they come in one read and when the
second character is broken off after an ill-formed byte. -/
theorem chars_start_depends_on_reads :
    let delivered (reads : List Read) : List Char :=
      match start { reads := some reads } with
      | .ok (_, events) => events.flatMap Event.chars
      | .error _ => []
    delivered [.bytes [0xff, 0xc3, 0xa9]] = [replacement, 'é'] ∧
      decodeUtf8 [0xff, 0xc3, 0xa9] = [replacement, 'é'] ∧
      delivered [.bytes [0xff, 0xc3], .bytes [0xa9]] =
        [replacement, replacement, replacement] := by
  decide +kernel

end ByteStream

end Transport

end VideoTerminal
