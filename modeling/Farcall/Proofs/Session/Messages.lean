import Farcall.Proofs.Literals
import Farcall.Session.Message

/-!
# What messages say

The text of a message tells the method of its call and its number, and a call with one text for a
parameter is told from every other one of that kind.
-/

namespace Farcall

open Json (quoteChars)

namespace Request

def opening : List Char :=
  '\x7b' :: (quoteChars true "jsonrpc".toList ++ (':' :: ' ' :: (quoteChars true "2.0".toList ++
    (',' :: ' ' :: (quoteChars true "method".toList ++ [':', ' '])))))

def between : List Char :=
  ',' :: ' ' :: (quoteChars true "params".toList ++ [':', ' ', '['])

def beforeId : List Char :=
  ']' :: ',' :: ' ' :: (quoteChars true "id".toList ++ [':'])

def closing (id : Nat) : List Char :=
  beforeId ++ ' ' :: ((toString (id : Int)).toList ++ ['\x7d'])

theorem toList_message {r : Request} {id : Nat}
    (h : Json.write Json.spaced (r.message id) = .ok text) :
    ∃ items, Json.writeItems Json.spaced (r.params.members?.getD []) = .ok items ∧
      text.toList = opening ++ (quoteChars true r.method.toList ++ (between ++
        ([',', ' '].intercalate (items.map String.toList) ++ closing id))) := by
  simp only [Request.message, Json.write, Json.writeEntries, Json.writeKey] at h
  cases hitems : Json.writeItems Json.spaced (r.params.members?.getD []) with
  | error e =>
    rw [hitems] at h
    cases h
  | ok items =>
    rw [hitems] at h
    cases hid : Json.writeInt id with
    | error e =>
      rw [hid] at h
      cases h
    | ok digits =>
      rw [hid] at h
      obtain ⟨-, rfl⟩ := Json.writeInt_ok.mp hid
      refine ⟨items, rfl, ?_⟩
      rw [← Except.ok.inj h]
      simp [Json.quote, Json.spaced, opening, between, closing, beforeId]

variable {r r' : Request} {id id' : Nat}

/-- Calls with the same message are calls of the same method, and the rest of the message tells their
parameters. -/
theorem message_inj (h : Json.write Json.spaced (r.message id) = .ok text)
    (h' : Json.write Json.spaced (r'.message id') = .ok text) : r.method = r'.method ∧
      ∃ items items', Json.writeItems Json.spaced (r.params.members?.getD []) = .ok items ∧
        Json.writeItems Json.spaced (r'.params.members?.getD []) = .ok items' ∧
        [',', ' '].intercalate (items.map String.toList) ++ closing id =
          [',', ' '].intercalate (items'.map String.toList) ++ closing id' := by
  obtain ⟨items, hitems, htext⟩ := toList_message h
  obtain ⟨items', hitems', htext'⟩ := toList_message h'
  have hboth := List.append_cancel_left (htext.symm.trans htext')
  obtain ⟨hmethod, hrest⟩ := Literal.delimits_quoteChars true trivial trivial hboth
  exact ⟨String.toList_inj.mp hmethod, items, items', hitems, hitems',
    List.append_cancel_left hrest⟩

/-- Whatever stands before them, the numbers of messages are told apart. -/
theorem closing_inj {xs ys : List Char} (h : xs ++ closing id = ys ++ closing id') : id = id' := by
  -- read from the end, the number stands before the first character that belongs to no number
  have hread (n : Nat) (zs : List Char) : ((zs ++ closing n).reverse.drop 1).takeWhile
      Literal.ofInteger = (toString (n : Int)).toList.reverse := by
    have hdigits : ∀ c ∈ (toString (n : Int)).toList.reverse, Literal.ofInteger c = true :=
      fun c hc => Literal.ofInteger_of_mem n c (List.mem_reverse.mp hc)
    have hend : (zs ++ closing n).reverse.drop 1 =
        (toString (n : Int)).toList.reverse ++ ' ' :: (zs ++ beforeId).reverse := by
      simp [closing]
    rw [hend, List.takeWhile_append_of_pos hdigits, List.takeWhile_cons_of_neg (by decide),
      List.append_nil]
  have hreverse : (toString (id : Int)).toList.reverse = (toString (id' : Int)).toList.reverse := by
    rw [← hread id xs, h, hread id' ys]
  exact Int.ofNat_inj.mp (Literal.integer_inj (List.reverse_inj.mp hreverse))

theorem message_id_inj (h : Json.write Json.spaced (r.message id) = .ok text)
    (h' : Json.write Json.spaced (r'.message id') = .ok text) : id = id' := by
  obtain ⟨-, items, items', -, -, hrest⟩ := message_inj h h'
  exact closing_inj hrest

def about (method event : String) : Request := ⟨method, .list [.str event], false, .socket⟩

theorem about_message_inj {method method' event event' : String}
    (h : Json.write Json.spaced ((about method event).message id) = .ok text)
    (h' : Json.write Json.spaced ((about method' event').message id') = .ok text) :
    method = method' ∧ event = event' := by
  obtain ⟨hmethod, items, items', hitems, hitems', hrest⟩ := message_inj h h'
  have hone : items = [Json.quote true event] := (Except.ok.inj hitems).symm
  have hone' : items' = [Json.quote true event'] := (Except.ok.inj hitems').symm
  rw [hone, hone'] at hrest
  have hquoted : quoteChars true event.toList ++ closing id =
      quoteChars true event'.toList ++ closing id' := by simpa [Json.quote] using hrest
  exact ⟨hmethod, String.toList_inj.mp (Literal.delimits_quoteChars true trivial trivial hquoted).1⟩

end Request

end Farcall
