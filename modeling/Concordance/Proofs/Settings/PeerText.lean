import Concordance.Proofs.Settings.Peers
import Concordance.Proofs.Text.Stretches

/-!
# The text of a peer

The first at sign of a text ends the identifier, and commas part what stands behind it. So an
identifier has no at sign and an address has no comma, while at signs in addresses and commas in
the identifier do no harm. A text is accepted just if it has an at sign, neither its identifier is
blank nor all of its addresses are, and then the peer is what is left without the blanks. The peers
that are read from texts are just those that are read again from their own text.

* `Text.pieces_eq_iff`: cutting a text at separators undoes joining its pieces with them.
* `Peer.Layout`, `Peer.Layout.read_eq`: the parts of a text, and what is read from them.
* `Peer.Writable`, `Peer.read_write_iff`: the peers that can be written.
* `Peer.text_syntax`: what is read and what is written.
-/

namespace Concordance

/-! ## Pieces -/

namespace Text

variable {isSep : Char → Bool} {sep : Char} {text piece : List Char} {cut : List (List Char)}

/-- There are no separators in a piece. -/
theorem not_isSep_of_mem_pieces (mem : piece ∈ pieces isSep text) : ∀ c ∈ piece, isSep c = false := by
  intro c held
  have run : piece ∈ runs (fun c => !isSep c) text := by
    refine List.mem_filter.mpr ⟨by simpa only [Bool.not_not] using mem, ?_⟩
    simp [List.ne_nil_of_mem held]
  simpa using ((of_mem_runs run).2 c held).1

/-- A text is cut into those texts without separators that give the text when they are joined with
separators. -/
theorem pieces_eq_iff : pieces (· == sep) text = cut ↔
    cut ≠ [] ∧ [sep].intercalate cut = text ∧ ∀ piece ∈ cut, sep ∉ piece := by
  rw [pieces_eq_splitOnP, ← List.splitOn_eq_splitOnP]
  constructor
  · rintro rfl
    refine ⟨List.splitOn_ne_nil sep text, List.intercalate_splitOn sep, fun piece mem held => ?_⟩
    rw [List.splitOn_eq_splitOnP, ← pieces_eq_splitOnP] at mem
    simpa using not_isSep_of_mem_pieces mem sep held
  · rintro ⟨ne, rfl, apart⟩
    exact List.splitOn_intercalate sep apart ne

theorem mem_of_mem_trim {c : Char} (mem : c ∈ trim text) : c ∈ text := by
  have kept := (List.dropWhile_sublist isBlank).subset (List.mem_reverse.mp mem)
  exact (List.dropWhile_sublist isBlank).subset (List.mem_reverse.mp kept)

end Text

/-! ## Texts of peers -/

namespace Peer

/-- The parts of a text: the identifier before its first at sign, and the pieces of what stands
behind it, with commas between them. -/
structure Layout (text : String) (id : List Char) (pieces : List (List Char)) : Prop where
  parts : text.toList = id ++ '@' :: [','].intercalate pieces
  noAt : '@' ∉ id
  pieces_ne_nil : pieces ≠ []
  noComma : ∀ piece ∈ pieces, ',' ∉ piece

/-- The peer with this identifier and these addresses, where neither the blanks around them count
nor the addresses that are blank. -/
def ofParts (id : List Char) (pieces : List (List Char)) : Peer where
  id := String.ofList (Text.trim id)
  addresses := (pieces.filter (!Text.allBlank ·)).map fun piece => String.ofList (Text.trim piece)

/-- The identifier is not blank, and some address is not. -/
structure Filled (id : List Char) (pieces : List (List Char)) : Prop where
  id : Text.allBlank id = false
  piece : ∃ piece ∈ pieces, Text.allBlank piece = false

/-- The text writes the peer: this is what its parts make, and they are not blank. -/
def Spells (text : String) (p : Peer) : Prop :=
  ∃ id pieces, Layout text id pieces ∧ Filled id pieces ∧ p = ofParts id pieces

/-- A peer that a text can write: no at sign in its identifier, and no comma in an address. -/
structure Writable (p : Peer) : Prop extends p.WellFormed where
  noAt : '@' ∉ p.id.toList
  noComma : ∀ address ∈ p.addresses, ',' ∉ address.toList

variable {text : String} {id : List Char} {pieces : List (List Char)} {p : Peer}

/-- A text with an at sign has its parts. -/
theorem exists_layout (mem : '@' ∈ text.toList) : ∃ id pieces, Layout text id pieces := by
  cases cut : Text.splitFirst '@' text.toList with
  | none => exact absurd mem (Text.splitFirst_eq_none_iff.mp cut)
  | some parts =>
    obtain ⟨id, rest⟩ := parts
    obtain ⟨whole, noAt⟩ := Text.splitFirst_eq_some_iff.mp cut
    obtain ⟨ne, joined, apart⟩ := Text.pieces_eq_iff.mp (Eq.refl (Text.pieces (· == ',') rest))
    exact ⟨id, _, by rw [joined, whole], noAt, ne, apart⟩

/-! ## Reading -/

theorem readAddresses_eq (rest : List Char) :
    readAddresses rest =
      ((Text.pieces (· == ',') rest).filter (!Text.allBlank ·)).map Text.trim := by
  have blank : ∀ piece, (Text.trim piece).isEmpty = Text.allBlank piece := fun piece => by
    rw [Bool.eq_iff_iff, List.isEmpty_iff, Text.trim_eq_nil_iff]
  rw [readAddresses, List.filter_map]
  simp only [Function.comp_def, blank]

theorem read_of_noAt (noAt : '@' ∉ text.toList) : read text = .error .noAt := by
  rw [read, Text.splitFirst_eq_none_iff.mpr noAt]

/-- What is read from a text is known from its parts. -/
theorem Layout.read_eq (h : Layout text id pieces) :
    read text =
      if Text.allBlank id then .error .blankId
      else if pieces.all Text.allBlank then .error .noAddress
      else .ok (ofParts id pieces) := by
  have cut : Text.pieces (· == ',') ([','].intercalate pieces) = pieces :=
    Text.pieces_eq_iff.mpr ⟨h.pieces_ne_nil, rfl, h.noComma⟩
  rw [read, Text.splitFirst_eq_some_iff.mpr ⟨h.parts, h.noAt⟩]
  dsimp only
  rw [readAddresses_eq, cut]
  by_cases blank : pieces.all Text.allBlank = true
  · have none : pieces.filter (!Text.allBlank ·) = [] := by
      simpa [List.filter_eq_nil_iff] using blank
    rw [none, if_pos blank]
    rfl
  · have some : (pieces.filter (!Text.allBlank ·)).map Text.trim ≠ [] := by
      simpa [List.filter_eq_nil_iff] using blank
    rw [if_neg blank]
    split
    · rfl
    · split
      · next none => exact absurd none some
      · rw [List.map_map]
        rfl

/-- A text is read as the peer that it writes. -/
theorem read_eq_ok_iff : read text = .ok p ↔ Spells text p := by
  constructor
  · intro accepted
    by_cases found : '@' ∈ text.toList
    · obtain ⟨id, pieces, layout⟩ := exists_layout found
      rw [layout.read_eq] at accepted
      split at accepted
      · cases accepted
      · next named =>
        split at accepted
        · cases accepted
        · next listed =>
          obtain rfl := Except.ok.inj accepted
          exact ⟨id, pieces, layout, ⟨by simpa using named, by simpa using listed⟩, rfl⟩
    · rw [read_of_noAt found] at accepted
      cases accepted
  · rintro ⟨id, pieces, layout, filled, rfl⟩
    rw [layout.read_eq, if_neg (by simp [filled.id]), if_neg (by simpa using filled.piece)]

/-- A text is accepted just if its identifier is not blank and one of its addresses is not. -/
theorem exists_read_eq_ok_iff :
    (∃ p, read text = .ok p) ↔ ∃ id pieces, Layout text id pieces ∧ Filled id pieces := by
  constructor
  · rintro ⟨p, accepted⟩
    obtain ⟨id, pieces, layout, filled, -⟩ := read_eq_ok_iff.mp accepted
    exact ⟨id, pieces, layout, filled⟩
  · rintro ⟨id, pieces, layout, filled⟩
    exact ⟨_, read_eq_ok_iff.mpr ⟨id, pieces, layout, filled, rfl⟩⟩

/-! ## Writing -/

/-- What is read can be written. -/
theorem writable_of_read (accepted : read text = .ok p) : p.Writable := by
  obtain ⟨id, pieces, layout, -, rfl⟩ := read_eq_ok_iff.mp accepted
  refine ⟨wellFormed_of_read accepted, fun mem => ?_, fun address own mem => ?_⟩
  · rw [ofParts, String.toList_ofList] at mem
    exact layout.noAt (Text.mem_of_mem_trim mem)
  · obtain ⟨piece, kept, rfl⟩ := List.mem_map.mp own
    rw [String.toList_ofList] at mem
    exact layout.noComma piece (List.mem_of_mem_filter kept) (Text.mem_of_mem_trim mem)

theorem Plain.not_allBlank {text : String} (h : Plain text) : Text.allBlank text.toList = false := by
  refine Bool.eq_false_iff.mpr fun blank => h.1 (String.toList_eq_nil_iff.mp ?_)
  rw [← h.2, Text.trim_eq_nil_iff.mpr blank]

theorem Plain.ofList_trim {text : String} (h : Plain text) :
    String.ofList (Text.trim text.toList) = text := by
  rw [h.2, String.ofList_toList]

namespace Writable

/-- The parts of a text that is written are those of the peer. -/
theorem layout (h : p.Writable) : Layout p.write p.id.toList (p.addresses.map String.toList) where
  parts := by rw [write, String.toList_ofList]
  noAt := h.noAt
  pieces_ne_nil := fun none => h.addresses_ne_nil (List.map_eq_nil_iff.mp none)
  noComma := List.forall_mem_map.mpr h.noComma

/-- Nothing is left out of such a peer. -/
theorem ofParts_eq (h : p.Writable) : ofParts p.id.toList (p.addresses.map String.toList) = p := by
  have all : (p.addresses.map String.toList).filter (!Text.allBlank ·) =
      p.addresses.map String.toList := by
    refine List.filter_eq_self.mpr (List.forall_mem_map.mpr fun address mem => ?_)
    rw [(h.addresses address mem).not_allBlank, Bool.not_false]
  have own : ∀ address ∈ p.addresses, String.ofList (Text.trim address.toList) = address :=
    fun address mem => (h.addresses address mem).ofList_trim
  have same := calc
      (p.addresses.map String.toList).map (fun piece => String.ofList (Text.trim piece))
    _ = p.addresses.map fun address => String.ofList (Text.trim address.toList) := List.map_map
    _ = p.addresses.map fun address => address := List.map_congr_left own
    _ = p.addresses := List.map_id' p.addresses
  rw [ofParts, all, same, h.id.ofList_trim]

/-- Such a peer is read again from its text. -/
theorem read_write (h : p.Writable) : read p.write = .ok p := by
  obtain ⟨address, own⟩ := List.exists_mem_of_ne_nil _ h.addresses_ne_nil
  refine read_eq_ok_iff.mpr ⟨_, _, h.layout, ⟨h.id.not_allBlank, ?_⟩, h.ofParts_eq.symm⟩
  exact ⟨_, List.mem_map_of_mem own, (h.addresses address own).not_allBlank⟩

end Writable

theorem read_write_iff : read p.write = .ok p ↔ p.Writable :=
  ⟨writable_of_read, Writable.read_write⟩

/-- The peers that texts write are those that can be written. -/
theorem exists_text_iff : (∃ text, read text = .ok p) ↔ p.Writable :=
  ⟨fun ⟨_, accepted⟩ => writable_of_read accepted, fun h => ⟨p.write, h.read_write⟩⟩

/-- A text is accepted just if it has an at sign, what stands before the first one is not blank, and
one of the pieces that commas part the rest into is not blank. The peer is then made of these parts
without the blanks, its addresses in order. The peers that are read are those with an identifier and
addresses that have no blanks around them, where the identifier has no at sign and no address has a
comma, while at signs in an address are left there. They are the peers that are read again from the
text that they are written as. -/
theorem text_syntax :
    (∀ text p, read text = .ok p ↔ Spells text p) ∧
      (∀ text, (∃ p, read text = .ok p) ↔ ∃ id pieces, Layout text id pieces ∧ Filled id pieces) ∧
      (∀ p, (∃ text, read text = .ok p) ↔ p.Writable) ∧
      (∀ p : Peer, read p.write = .ok p ↔ p.Writable) ∧
      ∃ text p, read text = .ok p ∧ ∃ address ∈ p.addresses, '@' ∈ address.toList := by
  refine ⟨fun _ _ => read_eq_ok_iff, fun _ => exists_read_eq_ok_iff, fun _ => exists_text_iff,
    fun _ => read_write_iff, "a@b@c", ⟨"a", ["b@c"]⟩, rfl, "b@c", List.mem_singleton_self _, ?_⟩
  decide

end Peer

end Concordance
