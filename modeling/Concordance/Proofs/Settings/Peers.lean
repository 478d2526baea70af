import Concordance.Proofs.Settings.Layers
import Mathlib.Data.List.DropRight

/-!
# Well-formed peers

A peer that is read from its text has an identifier and at least one address, all of them trimmed
and none of them empty. The peers of a file are taken as they stand there. So the peers in
settings that arguments give are well formed just if those of the last file are.

* `Text.trim_trim`: to trim again changes nothing.
* `Peer.WellFormed`, `Peer.wellFormed_of_read`: what reading a peer makes sure of.
* `Settings.wellFormed_peers_iff`: when all peers in settings are such.
-/

namespace Concordance

/-- A trimmed text stays as it is when it is trimmed again. -/
theorem Text.trim_trim (text : List Char) : trim (trim text) = trim text := by
  have start : (trim text).dropWhile isBlank = trim text := by
    obtain ⟨ending, split⟩ := List.rdropWhile_prefix isBlank (l := text.dropWhile isBlank)
    cases trimmed : trim text with
    | nil => rfl
    | cons c rest =>
      have whole : text.dropWhile isBlank = c :: (rest ++ ending) := by
        rw [← split, ← List.cons_append, ← trimmed]
        rfl
      exact List.dropWhile_cons_of_neg (by simp [not_isBlank_of_dropWhile_eq_cons whole])
  calc trim (trim text) = ((trim text).dropWhile isBlank).rdropWhile isBlank := rfl
    _ = (trim text).rdropWhile isBlank := by rw [start]
    _ = trim text := List.rdropWhile_idempotent isBlank (text.dropWhile isBlank)

/-! ## One peer -/

namespace Peer

/-- A text is there and has no blanks around it. -/
def Plain (text : String) : Prop := text ≠ "" ∧ Text.trim text.toList = text.toList

/-- The peer has an identifier and at least one address, none of them empty and none with blanks
around it. -/
structure WellFormed (p : Peer) : Prop where
  id : Plain p.id
  addresses_ne_nil : p.addresses ≠ []
  addresses : ∀ address ∈ p.addresses, Plain address

theorem plain_ofList {text : List Char} (ne : text ≠ []) (trimmed : Text.trim text = text) :
    Plain (String.ofList text) := by
  refine ⟨fun empty => ne ?_, ?_⟩
  · simpa using empty
  · simpa using trimmed

/-- A peer that is read is well formed. -/
theorem wellFormed_of_read {text : String} {p : Peer} (read : Peer.read text = .ok p) :
    p.WellFormed := by
  unfold Peer.read at read
  split at read
  · cases read
  · next id rest _ =>
    split at read
    · cases read
    · next blank =>
      split at read
      · cases read
      · next addresses some =>
        obtain rfl := Except.ok.inj read
        refine ⟨plain_ofList (fun empty => blank (Text.trim_eq_nil_iff.mp empty)) (Text.trim_trim id),
          fun none => some (List.map_eq_nil_iff.mp none), ?_⟩
        intro address mem
        obtain ⟨listed, own, rfl⟩ := List.mem_map.mp mem
        obtain ⟨trimmed, kept⟩ := List.mem_filter.mp own
        obtain ⟨piece, -, rfl⟩ := List.mem_map.mp trimmed
        exact plain_ofList (by simpa using kept) (Text.trim_trim piece)

end Peer

/-! ## The peers in settings -/

namespace Settings

variable {files : Files} {arguments : List String} {s : Settings}

theorem wellFormed_of_mapM {texts : List String} {peers : List Peer}
    (read : texts.mapM Peer.read = .ok peers) : ∀ p ∈ peers, p.WellFormed := by
  induction texts generalizing peers with
  | nil =>
    obtain rfl := Except.ok.inj read
    exact nofun
  | cons text rest ih =>
    rw [List.mapM_cons] at read
    obtain ⟨first, here, read⟩ := bind_eq_ok_iff.mp read
    obtain ⟨later, there, same⟩ := bind_eq_ok_iff.mp read
    obtain rfl := Except.ok.inj same
    exact List.forall_mem_cons.mpr ⟨Peer.wellFormed_of_read here, ih there⟩

/-- The peers in settings that arguments give are well formed just if those are that the settings
have to begin with: those in the last file, and none without a file. -/
theorem wellFormed_peers_iff (accepted : ofArguments files arguments = .ok s) :
    (∃ base since, Base files (flags arguments) base since) ∧
      ∀ base since, Base files (flags arguments) base since →
        ((∀ p ∈ s.peers, p.WellFormed) ↔ ∀ p ∈ base.peers, p.WellFormed) := by
  have applied := applyFlags_of_ok accepted
  refine ⟨Base.exists_of_applyFlags applied, fun base since start => ?_⟩
  obtain ⟨added, read, peers⟩ :=
    (layered_applyFlags start.single (start.applyFlags_eq applied)).peers
  rw [peers, List.forall_mem_append]
  exact and_iff_left (wellFormed_of_mapM read)

/-- A file that names a peer without addresses. -/
def silentFile : Files := fun path =>
  if path = "node.json" then
    .ok "\x7b\"peers\": [\x7b\"id\": \"p1\", \"addresses\": []\x7d]\x7d".toUTF8
  else .error .notFound

/-- From such a file the settings get a peer that cannot be reached. -/
theorem ofArguments_silent_peer : ∃ s, ofArguments silentFile ["--config", "node.json"] = .ok s ∧
    ¬ ∀ p ∈ s.peers, p.WellFormed := by
  refine ⟨{ standard with peers := [⟨"p1", []⟩] }, by decide +kernel, fun wellFormed => ?_⟩
  exact (wellFormed ⟨"p1", []⟩ List.mem_cons_self).addresses_ne_nil rfl

theorem wellFormed_peers_iff_blanks :
    let arguments := ["--partitions", "8", "--peer", " b @ 10.0.0.2 , ,10.0.0.3"]
    let s := { standard with numPartitions := 8, peers := [⟨"b", ["10.0.0.2", "10.0.0.3"]⟩] }
    ofArguments silentFile arguments = .ok s ∧ Base silentFile (flags arguments) standard
        [(.partitions, "8"), (.peer, " b @ 10.0.0.2 , ,10.0.0.3")] ∧
      ∀ p ∈ s.peers, p.WellFormed := by
  intro arguments s
  have accepted : ofArguments silentFile arguments = .ok s := by decide +kernel
  have start : Base silentFile (flags arguments) standard (flags arguments) :=
    .noFile (by decide +kernel)
  exact ⟨accepted, start, ((wellFormed_peers_iff accepted).2 _ _ start).mpr nofun⟩

end Settings

end Concordance
