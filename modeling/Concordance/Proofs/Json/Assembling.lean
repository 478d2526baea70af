import Concordance.Json.Reader
import Concordance.Proofs.Json.Lexing

/-!
# A value that is written is read back

The tokens of a value bring the machine with the stack to the point where it hands
that value on, whatever the stack holds. Of the tokens of an array or object the first
are read with nothing of it finished, and the others with what stands before them.

* `Json.Proper`: the values whose numbers have a text.
* `Assembly.run_tokens`: the tokens of a value make it up.
* `Json.read?_write`: a value is read from its text.
-/

namespace Concordance.Json

/-- Every number in the value is one that a text says. -/
inductive Proper : Json → Prop
  | null : Proper .null
  | bool (b : Bool) : Proper (.bool b)
  | number {n : Number} (h : n.Proper) : Proper (.number n)
  | string (s : Text) : Proper (.string s)
  | array {items : List Json} (h : ∀ item ∈ items, Proper item) : Proper (.array items)
  | object {members : List (Text × Json)} (h : ∀ member ∈ members, Proper member.2) :
    Proper (.object members)

/-! ## The tokens of a value -/

theorem isOpen_head_itemTokens {items : List Json} :
    ∀ t ∈ (itemTokens items).head?, t.isOpen = false := by
  intro t first
  cases items <;>
    · obtain rfl := Option.some.inj first
      rfl

theorem isOpen_head_memberTokens {members : List (Text × Json)} :
    ∀ t ∈ (memberTokens members).head?, t.isOpen = false := by
  intro t first
  cases members <;>
    · obtain rfl := Option.some.inj first
      rfl

mutual

/-- Commas and colons keep the words and numbers of a value apart. -/
theorem legible_tokens : ∀ {j : Json}, j.Proper → Legible j.tokens
  | .null, _ => legible_singleton trivial
  | .bool _, _ => legible_singleton trivial
  | .number _, .number h => legible_singleton h
  | .string _, _ => legible_singleton trivial
  | .array [], _ => .cons (legible_singleton trivial) trivial rfl
  | .array (_ :: _), .array h => by
    obtain ⟨first, others⟩ := List.forall_mem_cons.mp h
    have items := (legible_tokens first).append (legible_itemTokens others) isOpen_head_itemTokens
    exact .cons items trivial rfl
  | .object [], _ => .cons (legible_singleton trivial) trivial rfl
  | .object ((_, _) :: _), .object h => by
    obtain ⟨first, others⟩ := List.forall_mem_cons.mp h
    have values := (legible_tokens first).append (legible_memberTokens others)
      isOpen_head_memberTokens
    exact .cons (.cons (.cons values trivial rfl) trivial rfl) trivial rfl

theorem legible_itemTokens : ∀ {items : List Json}, (∀ item ∈ items, item.Proper) →
    Legible (itemTokens items)
  | [], _ => legible_singleton trivial
  | _ :: _, h => by
    obtain ⟨first, others⟩ := List.forall_mem_cons.mp h
    have items := (legible_tokens first).append (legible_itemTokens others) isOpen_head_itemTokens
    exact .cons items trivial rfl

theorem legible_memberTokens : ∀ {members : List (Text × Json)},
    (∀ member ∈ members, member.2.Proper) → Legible (memberTokens members)
  | [], _ => legible_singleton trivial
  | (_, _) :: _, h => by
    obtain ⟨first, others⟩ := List.forall_mem_cons.mp h
    have values := (legible_tokens first).append (legible_memberTokens others)
      isOpen_head_memberTokens
    exact .cons (.cons (.cons values trivial rfl) trivial rfl) trivial rfl

end

/-! ## Putting the tokens together -/

namespace Assembly

/-- Reads tokens on from a state. -/
def run (a : Assembly) (ts : List Token) : Option Assembly := ts.foldlM step a

@[simp] theorem run_nil (a : Assembly) : a.run [] = some a := rfl

theorem run_cons (a : Assembly) (t : Token) (ts : List Token) :
    a.run (t :: ts) = (a.step t).bind (·.run ts) := by
  simp only [run, List.foldlM_cons, Option.bind_eq_bind]

theorem run_singleton (a : Assembly) (t : Token) : a.run [t] = a.step t := by
  simp only [run_cons, run_nil, Option.bind_fun_some]

theorem run_append (a : Assembly) (ts us : List Token) :
    a.run (ts ++ us) = (a.run ts).bind (·.run us) := by
  simp only [run, List.foldlM_append, Option.bind_eq_bind]

/-- No value begins with the end of an array, so that the first item of an array is read
like any value. -/
theorem run_firstItem (frames : List Frame) (j : Json) (ts : List Token) :
    run ⟨.firstItem, frames⟩ (j.tokens ++ ts) = run ⟨.value, frames⟩ (j.tokens ++ ts) := by
  match j with
  | .null | .bool _ | .number _ | .string _ => rfl
  | .array [] | .array (_ :: _) | .object [] | .object (_ :: _) => rfl

mutual

/-- The tokens of a value make it up, and it is handed to what is unfinished around it. -/
theorem run_tokens : ∀ (j : Json) (frames : List Frame),
    run ⟨.value, frames⟩ j.tokens = deliver j frames
  | .null, frames | .bool _, frames | .number _, frames | .string _, frames => run_singleton _ _
  | .array [], frames => by
    rw [tokens, run_cons]
    exact run_singleton _ _
  | .array (item :: rest), frames => by
    have opened : step ⟨.value, frames⟩ .openArray = some ⟨.firstItem, .array [] :: frames⟩ := rfl
    rw [tokens, run_cons, opened, Option.bind_some, run_firstItem, run_append, run_tokens]
    exact run_itemTokens rest [item] frames
  | .object [], frames => by
    rw [tokens, run_cons]
    exact run_singleton _ _
  | .object ((key, value) :: rest), frames => by
    have opened (ts : List Token) : run ⟨.value, frames⟩ (.openObject :: .string key :: .colon :: ts) =
      run ⟨.value, .member [] key :: frames⟩ ts := rfl
    rw [tokens, opened, run_append, run_tokens]
    exact run_memberTokens rest [(key, value)] frames

/-- The items that are left are added to those that are finished. -/
theorem run_itemTokens : ∀ (items finished : List Json) (frames : List Frame),
    run ⟨.more, .array finished :: frames⟩ (itemTokens items) =
      deliver (.array (finished.reverse ++ items)) frames
  | [], finished, frames => by
    rw [itemTokens, List.append_nil]
    exact run_singleton _ _
  | item :: rest, finished, frames => by
    have next (ts : List Token) : run ⟨.more, .array finished :: frames⟩ (.comma :: ts) =
      run ⟨.value, .array finished :: frames⟩ ts := rfl
    rw [itemTokens, next, run_append, run_tokens]
    refine (run_itemTokens rest (item :: finished) frames).trans ?_
    rw [List.reverse_cons, List.append_assoc, List.singleton_append]

theorem run_memberTokens : ∀ (members finished : List (Text × Json)) (frames : List Frame),
    run ⟨.more, .object finished :: frames⟩ (memberTokens members) =
      deliver (.object (finished.reverse ++ members)) frames
  | [], finished, frames => by
    rw [memberTokens, List.append_nil]
    exact run_singleton _ _
  | (key, value) :: rest, finished, frames => by
    have next (ts : List Token) :
      run ⟨.more, .object finished :: frames⟩ (.comma :: .string key :: .colon :: ts) =
        run ⟨.value, .member finished key :: frames⟩ ts := rfl
    rw [memberTokens, next, run_append, run_tokens]
    refine (run_memberTokens rest ((key, value) :: finished) frames).trans ?_
    rw [List.reverse_cons, List.append_assoc, List.singleton_append]

end

end Assembly

theorem assemble?_tokens (j : Json) : assemble? j.tokens = some j := by
  have complete : j.tokens.foldlM Assembly.step ⟨.value, []⟩ = some ⟨.done j, []⟩ :=
    Assembly.run_tokens j []
  rw [assemble?, complete]
  rfl

/-- A value is read from its text. -/
theorem read?_write {j : Json} (h : j.Proper) : read? j.write = some j := by
  rw [read?, write, String.toList_ofList, tokens?_write (legible_tokens h), Option.bind_some,
    assemble?_tokens]

end Concordance.Json
