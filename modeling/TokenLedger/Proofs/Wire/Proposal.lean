import TokenLedger.Curve.Ed25519
import TokenLedger.Proofs.Json.Surviving
import TokenLedger.Proofs.Obtainable
import TokenLedger.Proofs.Proposal.Canonical
import TokenLedger.Proofs.Time.Timestamp
/-!
Proposals survive the wire.

Each part of a proposal is read back from what it is written as: identifiers, names, parties and
commands without condition, a set because it is rebuilt from its own members, an instant if its leap
second is at the end of a minute. Reading checks tokens, windows and proposals, so these survive as
far as they pass:

* `survives_token` and `survives_holding`: if the token is sound;
* `survives_timeWindow`: if it ends after it starts, and both bounds survive;
* `survives_proposal`: if it is acceptable, the tokens that it consumes are sound, and its window
  survives. No other proposal is read back from its text (`decode_print_eq_ok_iff`).

All that can be obtained is sound, so a proposal that can be obtained is neither lost nor changed by
writing it and reading it, unless its window is bounded by a leap second that is not at the end of a
minute (`Obtainable.decode_print_proposal`). Such a proposal has the text of another one
(`Obtainable.decode_print_stray`).
-/

namespace TokenLedger

/-- The bounds of a window have their leap seconds at the end of a minute. -/
structure TimeWindow.LeapsAtMinuteEnd (window : TimeWindow) : Prop where
  start : window.start.LeapAtMinuteEnd
  stop : window.stop.LeapAtMinuteEnd

namespace Wire

open Json (Codec decode eq_ok_of_mapError_eq_ok exists_of_bind_eq_ok exists_of_map_eq_ok)

/-! ### Identifiers and parties -/

theorem survives_bytes32 (block : Bytes32) : bytes32.Survives block := by
  -- the codec of thirty-two items is the one for the length of this very list
  have survives : (Codec.count block.toList.length .byte).Survives block.toList :=
    Codec.survives_count fun byte _ => Codec.survives_byte byte
  rw [block.length_toList] at survives
  refine ⟨?_, survives.plain⟩
  show ((Codec.count 32 .byte).read ((Codec.count 32 .byte).write block.toList).outline >>= _) = _
  rw [survives.read_write]
  simp only [bind, Except.bind, Bytes32.ofList?_toList]
  rfl

theorem survives_transactionId (id : TransactionId) : transactionId.Survives id :=
  (survives_bytes32 id.bytes).convert rfl

theorem survives_ledgerKey (key : LedgerKey) : ledgerKey.Survives key :=
  (survives_bytes32 key.bytes).convert rfl

theorem survives_stateRef (ref : StateRef) : stateRef.Survives ref := by
  refine Codec.Survives.convert (Codec.survives_record (by decide) ?_) rfl
  exact ⟨survives_transactionId ref.transactionId, Codec.survives_word32 ref.index, trivial⟩

theorem survives_memberName (name : MemberName) : memberName.Survives name :=
  (Codec.survives_string name.text).convert rfl

theorem survives_party (member : Party) : party.Survives member := by
  refine Codec.Survives.convert (Codec.survives_record (by decide) ?_) rfl
  exact ⟨survives_memberName member.name, survives_ledgerKey member.key, trivial⟩

/-- A set is rebuilt from its members. -/
theorem survives_set {α : Type} [Ord α] [Std.TransOrd α] [Std.LawfulEqOrd α] {codec : Codec α}
    (survive : ∀ member, codec.Survives member) (members : SortedSet α) :
    (set codec).Survives members :=
  (Codec.survives_list fun member _ => survive member).convert (SortedSet.ofList_toList members)

/-! ### Tokens -/

theorem survives_token {value : Token} (sound : value.Sound) : token.Survives value := by
  have unchecked : uncheckedToken.Survives value := by
    refine Codec.Survives.convert (Codec.survives_record (by decide) ?_) rfl
    exact ⟨Codec.survives_string value.assetId, Codec.survives_word64 value.quantity,
      survives_party value.owner, survives_party value.issuer,
      Codec.survives_list fun member _ => survives_party member, trivial⟩
  refine unchecked.checked ?_
  show (value.validate.mapError _).map _ = _
  rw [(Token.validate_eq_ok_iff value).mpr sound]
  rfl

theorem survives_holding {value : Holding} (sound : value.token.Sound) :
    holding.Survives value := by
  refine Codec.Survives.convert (Codec.survives_record (by decide) ?_) rfl
  exact ⟨survives_token sound, survives_party value.notary, survives_stateRef value.ref, trivial⟩

/-! ### Windows and commands -/

theorem read_instant {text : String} {moment : Instant}
    (parsed : Timestamp.parse text = some moment) :
    instant.read (Json.string text).outline = .ok moment := by
  simp only [instant, Json.outline, Json.sound, Except.mapError, bind, Except.bind, parsed]
  rfl

theorem survives_instant {moment : Instant} (leap_at_end : moment.LeapAtMinuteEnd) :
    instant.Survives moment :=
  ⟨read_instant (Timestamp.parse_render leap_at_end), .string _⟩

/-- An instant that was read has its leap second at the end of a minute. -/
theorem leapAtMinuteEnd_of_reads {moment : Instant} (reads : instant.Reads moment) :
    moment.LeapAtMinuteEnd := by
  obtain ⟨outline, read⟩ := reads
  unfold instant at read
  dsimp only at read
  split at read
  · obtain ⟨text, -, text_read⟩ := exists_of_bind_eq_ok read
    split at text_read
    · rename_i parsed
      cases text_read
      exact Timestamp.leapAtMinuteEnd_of_parse parsed
    · cases text_read
  · cases read

theorem survives_timeWindow {window : TimeWindow} (ordered : window.start < window.stop)
    (leaps_at_end : window.LeapsAtMinuteEnd) : timeWindow.Survives window := by
  refine Codec.Survives.checked (Codec.survives_record (by decide) ?_) ?_
  · exact ⟨survives_instant leaps_at_end.start, survives_instant leaps_at_end.stop, trivial⟩
  show (TimeWindow.between window.start window.stop).mapError _ = _
  rw [TimeWindow.between_eq_ok_iff.mpr ⟨ordered, rfl⟩]
  rfl

theorem leapsAtMinuteEnd_of_reads_timeWindow {window : TimeWindow}
    (reads : timeWindow.Reads window) : window.LeapsAtMinuteEnd := by
  obtain ⟨bounds, bounds_read, passed⟩ := reads.of_checked
  obtain ⟨-, same⟩ := TimeWindow.between_eq_ok_iff.mp (eq_ok_of_mapError_eq_ok passed)
  obtain ⟨start_read | fallback, stop_read | fallback, -⟩ := bounds_read.of_record
  · rw [same]
    exact ⟨leapAtMinuteEnd_of_reads start_read, leapAtMinuteEnd_of_reads stop_read⟩
  all_goals cases fallback

theorem survives_commandKind (kind : CommandKind) : commandKind.Survives kind :=
  ⟨by cases kind <;> rfl, .string _⟩

theorem survives_command (value : Command) : command.Survives value := by
  refine Codec.Survives.convert (Codec.survives_record (by decide) ?_) rfl
  exact ⟨survives_commandKind value.kind, survives_set survives_party value.signatories, trivial⟩

/-! ### Proposals -/

/-- A proposal survives if it is acceptable and consumes sound tokens, and its window survives. -/
theorem survives_proposal {value : Proposal} (sound : value.Sound)
    (leaps_at_end : value.timeWindow.LeapsAtMinuteEnd) : proposal.Survives value := by
  have unchecked : uncheckedProposal.Survives value := by
    refine Codec.Survives.convert (Codec.survives_record (by decide) ?_) rfl
    exact ⟨survives_transactionId value.id, survives_party value.notary,
      survives_timeWindow sound.acceptable.ordered leaps_at_end,
      Codec.survives_list fun input consumed => survives_holding (sound.inputs input consumed),
      Codec.survives_list fun output produced =>
        survives_token (sound.acceptable.sound output produced),
      survives_set survives_command value.commands,
      survives_set survives_party value.requiredSignatories, trivial⟩
  refine unchecked.checked ?_
  show (value.validate.mapError _).map _ = _
  rw [Proposal.validate_eq_ok_iff.mpr sound.acceptable]
  rfl

theorem leapsAtMinuteEnd_of_reads_proposal {value : Proposal} (reads : proposal.Reads value) :
    value.timeWindow.LeapsAtMinuteEnd := by
  obtain ⟨before, before_read, passed⟩ := reads.of_checked
  obtain ⟨_, -, same⟩ := exists_of_map_eq_ok passed
  obtain ⟨parts, parts_read, made⟩ := before_read.of_convert
  obtain ⟨-, -, window_read | fallback, -⟩ := parts_read.of_record
  · rw [← same, ← made]
    exact leapsAtMinuteEnd_of_reads_timeWindow window_read
  · cases fallback

/-- **The proposals that are read back from their texts** are the sound ones whose windows have
their leap seconds at the end of a minute. -/
theorem decode_print_eq_ok_iff {value : Proposal} :
    decode proposal.read (proposal.write value).print = .ok value ↔
      value.Sound ∧ value.timeWindow.LeapsAtMinuteEnd := by
  constructor
  · intro decoded
    have reads : proposal.Reads value := Codec.reads_of_decode decoded
    exact ⟨sound_of_reads_proposal reads, leapsAtMinuteEnd_of_reads_proposal reads⟩
  · rintro ⟨sound, leaps_at_end⟩
    exact (survives_proposal sound leaps_at_end).decode_print

end Wire

open Json (decode)

section Scheme

variable [SignatureScheme]

/-- **A proposal that can be obtained is read back from its text**, and so it passes the same
checks under the same id: whatever its names and assets are called, in whatever order its
participants come, and wherever its window lies, if only no bound of the window lies in a leap
second elsewhere than at the end of a minute. With such a bound it is not read back. -/
theorem Obtainable.decode_print_proposal {proposal : Proposal}
    (obtained : Obtainable (.proposal proposal)) :
    (decode Wire.proposal.read (Wire.proposal.write proposal).print = .ok proposal ↔
        proposal.timeWindow.LeapsAtMinuteEnd) ∧
      proposal.validate = .ok () ∧ proposal.contentId = proposal.id := by
  have sound : proposal.Sound := obtained.sound
  refine ⟨?_, Proposal.validate_eq_ok_iff.mpr sound.acceptable, sound.acceptable.identified⟩
  rw [Wire.decode_print_eq_ok_iff, and_iff_right sound]

end Scheme

/-! A mint whose names have quotes and control characters, in the longest window there is: from a
leap second in the year -262143 to the last instant of all, in a leap second of the year 262142. And
the same mint from 2015 on, in a leap second that the fifth second of a minute would have, and from
the instant in the sixth second that such a leap second is written as. -/

namespace Proposal.LongMint

def member : Party := ⟨⟨"CN=\"Al\\ice\"\u0007\n"⟩, ⟨.replicate 3⟩⟩

def opening : Instant where
  second := firstSecond + 59
  nano := 1500000001
  firstSecond_le := by decide
  le_lastSecond := by decide
  nano_lt := by decide

def closing : Instant where
  second := lastSecond
  nano := 1999999999
  firstSecond_le := by decide
  le_lastSecond := by decide
  nano_lt := by decide

def strayOpening : Instant where
  second := 1425254164
  nano := 1333333333
  firstSecond_le := by decide
  le_lastSecond := by decide
  nano_lt := by decide

def nextOpening : Instant where
  second := 1425254165
  nano := 333333333
  firstSecond_le := by decide
  le_lastSecond := by decide
  nano_lt := by decide

def token : Token := ⟨"\u00fc/\t\u2028", 18446744073709551615, member, member, [member, member]⟩

/-- A quantity beyond the signed numbers comes from a text. -/
theorem obtainable_token : Obtainable (.token token) :=
  .readToken (Wire.survives_token ⟨by decide, by decide, List.mem_cons_self⟩).decode_print

def mint (window : TimeWindow) : Proposal :=
  ((Draft.empty.addOutput token).addCommand (.ofList .create [member])).assemble member window

theorem obtainable_mint {window : TimeWindow} (ordered : window.start < window.stop) :
    Obtainable (.proposal (mint window)) := by
  have acceptable : (mint window).validate = .ok () :=
    Draft.validate_assemble (by decide) (by decide) rfl (by decide) ordered
  have valid : (mint window).validate.map (fun () => mint window) = .ok (mint window) := by
    rw [acceptable]
    rfl
  have bounded : TimeWindow.between window.start window.stop = .ok window :=
    TimeWindow.between_eq_ok_iff.mpr ⟨ordered, rfl⟩
  exact .build (((Obtainable.newDraft.withNotary member).withTimeWindow
    (.between bounded)).addOutput obtainable_token |>.addCommand (.ofList .create [member])) valid

def proposal : Proposal := mint ⟨opening, closing⟩

def stray : Proposal := mint ⟨strayOpening, closing⟩

def next : Proposal := mint ⟨nextOpening, closing⟩

end Proposal.LongMint

open Proposal.LongMint in
theorem Obtainable.decode_print_proposal_long :
    Obtainable (.proposal proposal) ∧
      decode Wire.proposal.read (Wire.proposal.write proposal).print = .ok proposal ∧
      proposal.validate = .ok () ∧ proposal.contentId = proposal.id := by
  have obtained : Obtainable (.proposal proposal) := obtainable_mint (by decide)
  obtain ⟨read_back, checked⟩ := decode_print_proposal obtained
  exact ⟨obtained, read_back.mpr ⟨by decide, by decide⟩, checked⟩

namespace Proposal.LongMint

theorem id_stray : stray.id = next.id := by
  have same : stray.SameContent next :=
    ⟨rfl, rfl, rfl, rfl, .cons ⟨rfl, rfl, rfl, rfl, fun _ => Iff.rfl⟩ .nil, rfl, rfl⟩
  calc stray.id = stray.contentId := (Draft.contentId_assemble _ _ _).symm
    _ = next.contentId := congrArg TransactionId.ofCanonicalBytes same.canonicalBytes_eq
    _ = next.id := Draft.contentId_assemble _ _ _

/-- The two openings have one timestamp, so the two mints have one text. -/
theorem write_stray : Wire.proposal.write stray = Wire.proposal.write next := by
  have openings : Wire.instant.write strayOpening = Wire.instant.write nextOpening :=
    congrArg Json.string (by decide)
  have windows : Wire.timeWindow.write stray.timeWindow = Wire.timeWindow.write next.timeWindow :=
    congrArg (fun start => Json.object [("from", start), ("until", Wire.instant.write closing)])
      openings
  show Json.object (("id", Wire.transactionId.write stray.id) :: _ ::
    ("time_window", Wire.timeWindow.write stray.timeWindow) :: _) = _
  rw [id_stray, windows]
  rfl

end Proposal.LongMint

open Proposal.LongMint in
/-- **A proposal that is not read back**: its window begins in a leap second that is not at the end
of a minute, and what is read from its text begins in the next second, under the same id. -/
theorem Obtainable.decode_print_stray :
    Obtainable (.proposal stray) ∧
      decode Wire.proposal.read (Wire.proposal.write stray).print = .ok next ∧
      next.id = stray.id ∧ next ≠ stray := by
  have obtained : Obtainable (.proposal next) := obtainable_mint (by decide)
  have survives := Wire.survives_proposal obtained.sound ⟨by decide, by decide⟩
  refine ⟨obtainable_mint (by decide), ?_, id_stray.symm, fun same => ?_⟩
  · rw [write_stray]
    exact survives.decode_print
  · have openings : nextOpening = strayOpening :=
      congrArg (fun value => value.timeWindow.start) same
    exact absurd openings (by decide)

end TokenLedger
