import Farcall.Session.Address

/-!
# One service, two addresses

Both transports of a service reach the same endpoint: their addresses differ in the scheme only, are
encrypted together, and each can be made from the other. An address keeps the scheme it has, and one
without a scheme is not encrypted.
-/

namespace Farcall.Address

-- ---------------------------------------------------------------------------
-- Beginnings
-- ---------------------------------------------------------------------------

def Begins (start s : String) : Prop :=
  ∃ rest, s = start ++ rest

theorem begins_iff : Begins start s ↔ start.toList <+: s.toList := by
  constructor
  · rintro ⟨rest, rfl⟩
    simp
  · rintro ⟨rest, h⟩
    exact ⟨String.ofList rest, by rw [← String.toList_inj, ← h]; simp⟩

theorem not_begins_append (h : ¬ start.toList <+: other.toList)
    (h' : ¬ other.toList <+: start.toList) (rest : String) : ¬ Begins start (other ++ rest) := by
  intro hstart
  have hother : other.toList <+: (other ++ rest).toList := begins_iff.mp ⟨rest, rfl⟩
  rcases List.prefix_or_prefix_of_prefix (begins_iff.mp hstart) hother with hprefix | hprefix
  · exact h hprefix
  · exact h' hprefix

theorem after?_append (start rest : String) : after? start (start ++ rest) = some rest := by
  rw [after?, if_pos (by simp), ← String.length_toList]
  simp

theorem after?_eq_none (h : ¬ Begins start s) : after? start s = none := by
  rw [after?, if_neg]
  rwa [List.isPrefixOf_iff_prefix, ← begins_iff]

-- ---------------------------------------------------------------------------
-- Schemes
-- ---------------------------------------------------------------------------

def Bare (s : String) : Prop :=
  ¬ Begins "wss://" s ∧ ¬ Begins "ws://" s ∧ ¬ Begins "https://" s ∧ ¬ Begins "http://" s

/-- Addresses with the encryption they ask for and what stands after their scheme. -/
inductive Splits : String → Bool → String → Prop where
  | wss (rest : String) : Splits ("wss://" ++ rest) true rest
  | ws (rest : String) : Splits ("ws://" ++ rest) false rest
  | https (rest : String) : Splits ("https://" ++ rest) true rest
  | http (rest : String) : Splits ("http://" ++ rest) false rest
  | bare (h : Bare s) : Splits s false s

theorem exists_splits (s : String) : ∃ secure rest, Splits s secure rest := by
  by_cases hwss : Begins "wss://" s
  · obtain ⟨rest, rfl⟩ := hwss
    exact ⟨true, rest, .wss rest⟩
  by_cases hws : Begins "ws://" s
  · obtain ⟨rest, rfl⟩ := hws
    exact ⟨false, rest, .ws rest⟩
  by_cases hhttps : Begins "https://" s
  · obtain ⟨rest, rfl⟩ := hhttps
    exact ⟨true, rest, .https rest⟩
  by_cases hhttp : Begins "http://" s
  · obtain ⟨rest, rfl⟩ := hhttp
    exact ⟨false, rest, .http rest⟩
  exact ⟨false, s, .bare ⟨hwss, hws, hhttps, hhttp⟩⟩

def socketScheme (secure : Bool) : String :=
  if secure then "wss://" else "ws://"

def httpScheme (secure : Bool) : String :=
  if secure then "https://" else "http://"

section

variable {secure : Bool} {rest : String}

theorem after?_other {start other : String} (h : ¬ start.toList <+: other.toList)
    (h' : ¬ other.toList <+: start.toList) : after? start (other ++ rest) = none :=
  after?_eq_none (not_begins_append h h' rest)

/-- No scheme begins with another one, so the order in which they are looked for does not matter. -/
theorem Splits.socket_eq (h : Splits s secure rest) : socket s = socketScheme secure ++ rest := by
  cases h with
  | wss => simp [socket, startsWith, after?_append, socketScheme]
  | ws => simp [socket, startsWith, after?_append, socketScheme]
  | https =>
    have hwss : after? "wss://" ("https://" ++ rest) = none := after?_other (by decide) (by decide)
    have hws : after? "ws://" ("https://" ++ rest) = none := after?_other (by decide) (by decide)
    simp [socket, startsWith, hwss, hws, after?_append, socketScheme]
  | http =>
    have hwss : after? "wss://" ("http://" ++ rest) = none := after?_other (by decide) (by decide)
    have hws : after? "ws://" ("http://" ++ rest) = none := after?_other (by decide) (by decide)
    have hhttps : after? "https://" ("http://" ++ rest) = none :=
      after?_other (by decide) (by decide)
    simp [socket, startsWith, hwss, hws, hhttps, after?_append, socketScheme]
  | bare h =>
    obtain ⟨hwss, hws, hhttps, hhttp⟩ := h
    simp [socket, startsWith, after?_eq_none hwss, after?_eq_none hws, after?_eq_none hhttps,
      after?_eq_none hhttp, socketScheme]

/-- The tests for the address of requests split an address like those for the one of the socket. -/
theorem Splits.http_eq (h : Splits s secure rest) :
    Address.http s = httpScheme secure ++ rest := by
  cases h with
  | wss => simp [Address.http, after?_append, httpScheme]
  | ws =>
    have hwss : after? "wss://" ("ws://" ++ rest) = none := after?_other (by decide) (by decide)
    simp [Address.http, hwss, after?_append, httpScheme]
  | https =>
    have hwss : after? "wss://" ("https://" ++ rest) = none := after?_other (by decide) (by decide)
    have hws : after? "ws://" ("https://" ++ rest) = none := after?_other (by decide) (by decide)
    simp [Address.http, startsWith, hwss, hws, after?_append, httpScheme]
  | http =>
    have hwss : after? "wss://" ("http://" ++ rest) = none := after?_other (by decide) (by decide)
    have hws : after? "ws://" ("http://" ++ rest) = none := after?_other (by decide) (by decide)
    simp [Address.http, startsWith, hwss, hws, after?_append, httpScheme]
  | bare h =>
    obtain ⟨hwss, hws, hhttps, hhttp⟩ := h
    simp [Address.http, startsWith, after?_eq_none hwss, after?_eq_none hws,
      after?_eq_none hhttps, after?_eq_none hhttp, httpScheme]

theorem splits_socketScheme (secure : Bool) (rest : String) :
    Splits (socketScheme secure ++ rest) secure rest := by
  cases secure with
  | true => exact .wss rest
  | false => exact .ws rest

theorem splits_httpScheme (secure : Bool) (rest : String) :
    Splits (httpScheme secure ++ rest) secure rest := by
  cases secure with
  | true => exact .https rest
  | false => exact .http rest

end

-- ---------------------------------------------------------------------------
-- Both addresses
-- ---------------------------------------------------------------------------

/-- The addresses of the two transports, with the same text after their schemes. -/
inductive Paired : String → String → Prop where
  | encrypted (rest : String) : Paired ("https://" ++ rest) ("wss://" ++ rest)
  | plain (rest : String) : Paired ("http://" ++ rest) ("ws://" ++ rest)

theorem Splits.paired (h : Splits s secure rest) : Paired (Address.http s) (socket s) := by
  rw [h.http_eq, h.socket_eq]
  cases secure with
  | true => exact .encrypted rest
  | false => exact .plain rest

theorem Paired.encrypted_iff (h : Paired a b) : Begins "https://" a ↔ Begins "wss://" b := by
  cases h with
  | encrypted rest => exact ⟨fun _ => ⟨rest, rfl⟩, fun _ => ⟨rest, rfl⟩⟩
  | plain rest =>
    have hhttps : ¬ Begins "https://" ("http://" ++ rest) :=
      not_begins_append (by decide) (by decide) rest
    have hwss : ¬ Begins "wss://" ("ws://" ++ rest) :=
      not_begins_append (by decide) (by decide) rest
    exact iff_of_false hhttps hwss

/-- An address is one of the two made from it, unless it has no scheme. -/
theorem Splits.eq_http_or_socket (h : Splits s secure rest) :
    s = Address.http s ∨ s = socket s ∨ Bare s ∧ Address.http s = "http://" ++ s := by
  have hhttp := h.http_eq
  have hsocket := h.socket_eq
  cases h with
  | wss => exact .inr (.inl hsocket.symm)
  | ws => exact .inr (.inl hsocket.symm)
  | https => exact .inl hhttp.symm
  | http => exact .inl hhttp.symm
  | bare h => exact .inr (.inr ⟨h, hhttp⟩)

/-- The two addresses of a service differ in the scheme only and are encrypted together. Either can
be made from the other, and making it again changes nothing. -/
theorem addresses_correspond (s : String) :
    Paired (http s) (socket s) ∧
      (Begins "https://" (http s) ↔ Begins "wss://" (socket s)) ∧
      http (http s) = http s ∧ socket (socket s) = socket s ∧
      socket (http s) = socket s ∧ http (socket s) = http s ∧
      (s = http s ∨ s = socket s ∨ Bare s ∧ http s = "http://" ++ s) := by
  obtain ⟨secure, rest, h⟩ := exists_splits s
  have hhttp : Splits (http s) secure rest := h.http_eq ▸ splits_httpScheme secure rest
  have hsocket : Splits (socket s) secure rest := h.socket_eq ▸ splits_socketScheme secure rest
  refine ⟨h.paired, h.paired.encrypted_iff, ?_, ?_, ?_, ?_, h.eq_http_or_socket⟩
  · rw [hhttp.http_eq, h.http_eq]
  · rw [hsocket.socket_eq, h.socket_eq]
  · rw [hhttp.socket_eq, h.socket_eq]
  · rw [hsocket.http_eq, h.http_eq]

example : http "ws://https://a" = "http://https://a" ∧ socket "" = "ws://" := by
  decide +kernel

end Farcall.Address
