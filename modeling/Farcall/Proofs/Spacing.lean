import Farcall.Proofs.NamespacePaths
import Farcall.Proofs.Recovery
import Mathlib.Data.List.Chain

/-!
# Empty lines between pieces

A proxy is written in pieces, each of which some language may leave out, and pieces belong to parts.
Where the empty lines stand can be said of the pieces alone: between two neighbours of different
parts, and between two items if the language keeps these apart.
-/

namespace Farcall.Target

open Name (AfterParents)
open Python (ended toList_intercalate)

-- ---------------------------------------------------------------------------
-- Chunks
-- ---------------------------------------------------------------------------

/-- Appends a chunk to the lines there are, behind an empty line if there are any. -/
def append (separate : Bool) (lines chunk : List String) : List String :=
  if chunk.isEmpty then lines
  else if !lines.isEmpty && separate then lines ++ [""] ++ chunk
  else lines ++ chunk

def appendAll (separate : Bool) (chunks : List (List String)) : List String :=
  chunks.foldl (append separate) []

variable {separate : Bool} {c : List String} {cs : List (List String)}

theorem foldl_append_of_ne_nil {lines : List String} (h : lines ≠ []) :
    cs.foldl (append separate) lines =
      lines ++ (cs.filter (!·.isEmpty)).flatMap (gap separate ++ ·) := by
  induction cs generalizing lines with
  | nil => simp
  | cons c cs ih =>
    rw [List.foldl_cons]
    by_cases hc : c = []
    · simpa [append, hc] using ih h
    · have hnext : append separate lines c = lines ++ (gap separate ++ c) := by
        cases separate <;> simp [append, gap, h, hc]
      rw [hnext, ih (by simp [h])]
      simp [hc]

/-- Appending chunk by chunk comes to the same as joining those that are not empty. -/
theorem appendAll_eq : appendAll separate cs = joinChunks separate cs := by
  unfold appendAll
  induction cs with
  | nil => simp
  | cons c cs ih =>
    by_cases hc : c = []
    · simpa [append, hc] using ih
    · have hfirst : append separate [] c = c := by simp [append, hc]
      rw [List.foldl_cons, hfirst, foldl_append_of_ne_nil hc, joinChunks_cons hc]

-- ---------------------------------------------------------------------------
-- Pieces
-- ---------------------------------------------------------------------------

inductive Part where
  | opening
  | enums
  | tree
  | methods
  | events
  | closing
deriving DecidableEq

def Part.hasItems : Part → Bool
  | .enums => true
  | .methods => true
  | _ => false

/-- Some lines of a proxy that are written together. -/
structure Piece where
  part : Part
  lines : List String

def apart (separate : Bool) (p q : Piece) : Bool :=
  p.part != q.part || separate && p.part.hasItems

def following (separate : Bool) (p : Piece) : List Piece → List String
  | [] => []
  | q :: rest => gap (apart separate p q) ++ q.lines ++ following separate q rest

def spaced (separate : Bool) : List Piece → List String
  | [] => []
  | p :: rest => p.lines ++ following separate p rest

@[simp] theorem spaced_nil : spaced separate [] = [] := rfl

def written (ps : List Piece) : List Piece := ps.filter (!·.lines.isEmpty)

variable {p q : Piece} {ps qs : List Piece}

theorem following_append : following separate p (ps ++ q :: qs) =
    following separate p ps ++ gap (apart separate ((p :: ps).getLast (by simp)) q) ++
      spaced separate (q :: qs) := by
  induction ps generalizing p with
  | nil => simp [following, spaced]
  | cons r ps ih => simp [following, ih]

theorem spaced_append (hps : ps ≠ []) : spaced separate (ps ++ q :: qs) =
    spaced separate ps ++ gap (apart separate (ps.getLast hps) q) ++ spaced separate (q :: qs) := by
  cases ps with
  | nil => exact (hps rfl).elim
  | cons p ps => simp [spaced, following_append]

theorem mem_following (h : l ∈ following separate p ps) : l = "" ∨ ∃ q ∈ ps, l ∈ q.lines := by
  induction ps generalizing p with
  | nil => cases h
  | cons q ps ih =>
    simp only [following, List.mem_append] at h
    rcases h with (hgap | hq) | hrest
    · exact .inl (eq_of_mem_gap hgap)
    · exact .inr ⟨q, List.mem_cons_self, hq⟩
    · rcases ih hrest with hempty | ⟨r, hr, hl⟩
      · exact .inl hempty
      · exact .inr ⟨r, List.mem_cons_of_mem q hr, hl⟩

theorem mem_spaced (h : l ∈ spaced separate ps) : l = "" ∨ ∃ p ∈ ps, l ∈ p.lines := by
  cases ps with
  | nil => cases h
  | cons p ps =>
    rcases List.mem_append.mp h with hp | hrest
    · exact .inr ⟨p, List.mem_cons_self, hp⟩
    · rcases mem_following hrest with hempty | ⟨q, hq, hl⟩
      · exact .inl hempty
      · exact .inr ⟨q, List.mem_cons_of_mem p hq, hl⟩

theorem spaced_written_eq_nil : spaced separate (written ps) = [] ↔ written ps = [] := by
  cases h : written ps with
  | nil => simp
  | cons p rest =>
    have hp : p ∈ written ps := by simp [h]
    have hlines : p.lines ≠ [] := by simpa using (List.mem_filter.mp hp).2
    simp [spaced, hlines]

def Part.pieces (part : Part) (chunks : List (List String)) : List Piece := chunks.map (⟨part, ·⟩)

theorem Part.part_of_mem {part : Part} (h : p ∈ part.pieces cs) : p.part = part := by
  obtain ⟨c, -, rfl⟩ := List.mem_map.mp h
  rfl

theorem following_pieces : following separate ⟨part, c⟩ (part.pieces cs) =
    cs.flatMap (gap (separate && part.hasItems) ++ ·) := by
  induction cs generalizing c with
  | nil => rfl
  | cons d cs ih =>
    have hrest := ih (c := d)
    simp only [Part.pieces, List.map_cons, following, apart] at hrest ⊢
    simp [hrest]

theorem spaced_pieces (part : Part) (cs : List (List String)) :
    spaced separate (written (part.pieces cs)) = joinChunks (separate && part.hasItems) cs := by
  have hwritten : written (part.pieces cs) = part.pieces (cs.filter (!·.isEmpty)) := List.filter_map
  rw [hwritten, joinChunks, ← gap]
  cases cs.filter (!·.isEmpty) with
  | nil => simp [Part.pieces]
  | cons c cs =>
    have hjoin := Delimits.intercalate_map_cons (gap (separate && part.hasItems)) id c cs
    rw [List.map_id] at hjoin
    rw [hjoin]
    exact congrArg (c ++ ·) following_pieces

theorem joinChunks_cons_joinChunks (hc : c ≠ []) : joinChunks separate (c :: cs) =
    c ++ if joinChunks separate cs = [] then [] else gap separate ++ joinChunks separate cs := by
  induction cs with
  | nil => simp [joinChunks_cons hc]
  | cons d cs ih =>
    by_cases hd : d = []
    · have hskip : joinChunks separate (c :: d :: cs) = joinChunks separate (c :: cs) := by
        simp [joinChunks_cons hc, hd]
      rw [hskip, ih, hd, joinChunks_nil_cons]
    · simp [joinChunks_cons hc, joinChunks_cons hd, hd]

theorem joinChunks_parts {parts : List (Part × List (List String))}
    (h : (parts.map Prod.fst).Nodup) :
    joinChunks true (parts.map fun x => joinChunks (separate && x.1.hasItems) x.2) =
      spaced separate (written (parts.flatMap fun x => x.1.pieces x.2)) := by
  induction parts with
  | nil => simp [written]
  | cons x parts ih =>
    obtain ⟨hx, hparts⟩ := List.nodup_cons.mp h
    have hsplit : written ((x :: parts).flatMap fun x => x.1.pieces x.2) =
        written (x.1.pieces x.2) ++ written (parts.flatMap fun x => x.1.pieces x.2) := by
      simp [written]
    rw [List.map_cons, hsplit, ← spaced_pieces]
    by_cases hnone : written (x.1.pieces x.2) = []
    · simp [hnone, ih hparts]
    · rw [joinChunks_cons_joinChunks (mt spaced_written_eq_nil.mp hnone), ih hparts]
      cases hnext : written (parts.flatMap fun x => x.1.pieces x.2) with
      | nil => simp
      | cons q rest =>
        -- the two neighbours at the seam belong to different parts
        have hseam : apart separate ((written (x.1.pieces x.2)).getLast hnone) q = true := by
          have hp := Part.part_of_mem (List.mem_of_mem_filter (List.getLast_mem hnone))
          have hq : q ∈ parts.flatMap fun x => x.1.pieces x.2 :=
            List.mem_of_mem_filter (hnext ▸ List.mem_cons_self)
          obtain ⟨y, hy, hq⟩ := List.mem_flatMap.mp hq
          have hne : x.1 ≠ y.1 := fun heq => hx (heq ▸ List.mem_map_of_mem hy)
          simp [apart, hp, Part.part_of_mem hq, hne]
        have hne : spaced separate (q :: rest) ≠ [] := by
          rw [← hnext, Ne, spaced_written_eq_nil, hnext]
          exact List.cons_ne_nil q rest
        rw [spaced_append hnone, hseam, if_neg hne, List.append_assoc]

-- ---------------------------------------------------------------------------
-- Empty lines
-- ---------------------------------------------------------------------------

/-- Empty lines stand between others only, and alone. -/
structure Tidy (ls : List String) : Prop where
  first : ∀ l ∈ ls.head?, l ≠ ""
  last : ∀ l ∈ ls.getLast?, l ≠ ""
  alone : ls.IsChain fun l m => l ≠ "" ∨ m ≠ ""

variable {ls ms : List String}

theorem tidy_of_ne (h : ∀ l ∈ ls, l ≠ "") : Tidy ls where
  first l hl := h l (List.mem_of_mem_head? hl)
  last l hl := h l (List.mem_of_mem_getLast? hl)
  alone := by
    induction ls with
    | nil => exact .nil
    | cons l ls ih =>
      obtain ⟨hl, hls⟩ := List.forall_mem_cons.mp h
      exact List.isChain_cons.mpr ⟨fun _ _ => .inl hl, ih hls⟩

theorem Tidy.gap_append (h : Tidy ls) (h' : Tidy ms) (hls : ls ≠ []) (hms : ms ≠ []) (b : Bool) :
    Tidy (ls ++ gap b ++ ms) where
  first := by simpa [List.head?_append_of_ne_nil _ hls] using h.first
  last := by rw [List.getLast?_append_of_ne_nil _ hms]; exact h'.last
  alone := by
    have hseam : ∀ x ∈ ls.getLast?, ∀ y : String, x ≠ "" ∨ y ≠ "" := fun x hx _ => .inl (h.last x hx)
    have hnext : (gap b ++ ms).IsChain fun l m => l ≠ "" ∨ m ≠ "" := by
      cases b with
      | false => exact h'.alone
      | true => exact List.isChain_cons.mpr ⟨fun y hy => .inr (h'.first y hy), h'.alone⟩
    rw [List.append_assoc]
    exact h.alone.append hnext fun x hx y _ => hseam x hx y

theorem tidy_spaced (hne : ∀ p ∈ ps, p.lines ≠ []) (h : ∀ p ∈ ps, ∀ l ∈ p.lines, l ≠ "") :
    Tidy (spaced separate ps) := by
  induction ps with
  | nil => exact tidy_of_ne (by simp)
  | cons p ps ih =>
    obtain ⟨hp, hps⟩ := List.forall_mem_cons.mp h
    obtain ⟨hpne, hpsne⟩ := List.forall_mem_cons.mp hne
    cases ps with
    | nil => simpa [spaced, following] using tidy_of_ne hp
    | cons q rest =>
      have hq : q.lines ≠ [] := hpsne q List.mem_cons_self
      have hsplit : spaced separate (p :: q :: rest) =
          p.lines ++ gap (apart separate p q) ++ spaced separate (q :: rest) := by
        simp [spaced, following]
      rw [hsplit]
      exact (tidy_of_ne hp).gap_append (ih hpsne hps) hpne (by simp [spaced, hq]) _

theorem splitOn_ended (h : ∀ l ∈ ls, '\n' ∉ l.toList) :
    (ended ls).splitOn '\n' = ls.map String.toList ++ [[]] := by
  induction ls with
  | nil => rfl
  | cons l ls ih =>
    obtain ⟨hl, hls⟩ := List.forall_mem_cons.mp h
    have hended : ended (l :: ls) = l.toList ++ '\n' :: ended ls := by simp [ended]
    rw [hended, List.splitOn_append_cons_self_of_not_mem hl, ih hls]
    rfl

/-- A text that does not begin with an empty line, has no two of them in a row and ends with one line
feed. -/
structure TidyText (cs : List Char) : Prop where
  first : cs.head? ≠ some '\n'
  alone : ¬ ['\n', '\n', '\n'] <:+: cs
  last : ['\n'] <:+ cs ∧ ¬ ['\n', '\n'] <:+ cs

theorem not_infix_ended (h : Tidy ls) (hplain : ∀ l ∈ ls, '\n' ∉ l.toList) :
    ¬ ['\n', '\n', '\n'] <:+: ended ls := by
  rintro ⟨before, after, hcs⟩
  have hsplit : (before ++ ['\n', '\n', '\n'] ++ after).splitOn '\n' =
      before.splitOn '\n' ++ [[], []] ++ after.splitOn '\n' := by
    have hempty (cs : List Char) : ('\n' :: cs).splitOn '\n' = [] :: cs.splitOn '\n' :=
      List.splitOn_append_cons_self_of_not_mem List.not_mem_nil cs
    rw [List.append_assoc, List.cons_append, List.splitOn_append_cons_self]
    simp [hempty]
  have hafter := List.dropLast_append_getLast (List.splitOn_ne_nil '\n' after)
  rw [hcs, splitOn_ended hplain, ← hafter, ← List.append_assoc] at hsplit
  -- the last line is the empty rest of the text, and the others are those it was made of
  have hlines := (List.append_inj_left' hsplit rfl).symm
  have hmapped : (ls.map String.toList).IsChain fun l m => l ≠ [] ∨ m ≠ [] := by
    rw [List.isChain_map]
    simpa using h.alone
  have hboth := hmapped.infix ⟨_, _, hlines⟩
  simp at hboth

theorem Tidy.text (h : Tidy ls) (hplain : ∀ l ∈ ls, '\n' ∉ l.toList) (hne : ls ≠ []) :
    TidyText (ended ls) := by
  have hended (ls ms : List String) : ended (ls ++ ms) = ended ls ++ ended ms := by simp [ended]
  have hfirst : (ended ls).head? ≠ some '\n' := by
    obtain ⟨l, ls, rfl⟩ := List.exists_cons_of_ne_nil hne
    have hl : l.toList ≠ [] := by simpa using h.first l rfl
    obtain ⟨c, cs, hcs⟩ := List.exists_cons_of_ne_nil hl
    have hc : c ≠ '\n' := by
      rintro rfl
      exact hplain l List.mem_cons_self (by simp [hcs])
    simp [ended, hcs, hc]
  obtain ⟨init, l, hls⟩ := (List.eq_nil_or_concat ls).resolve_left hne
  have hl : l ∈ ls.getLast? := by simp [hls]
  have hchars : ended ls = (ended init ++ l.toList) ++ ['\n'] := by
    rw [hls, List.concat_eq_append, hended]
    simp [ended]
  refine ⟨hfirst, not_infix_ended h hplain, ⟨_, hchars.symm⟩, ?_⟩
  rintro ⟨before, hbefore⟩
  rw [hchars, List.append_cons] at hbefore
  have hbody : before ++ ['\n'] = ended init ++ l.toList := List.append_inj_left' hbefore rfl
  have hlast : l.toList.getLast? = some '\n' := by
    have hend := congrArg List.getLast? hbody
    rw [List.getLast?_concat, List.getLast?_append_of_ne_nil _ (by simpa using h.last l hl)] at hend
    exact hend.symm
  exact hplain l (List.mem_of_mem_getLast? hl) (List.mem_of_getLast? hlast)

-- ---------------------------------------------------------------------------
-- Proxies
-- ---------------------------------------------------------------------------

structure Output where
  opening : List String
  enum : Value × List (String × Int) → List String
  treeOpening : List String
  scope : String → List String
  method : Method → List String
  events : List String
  closing : List String

structure Writes (t : Target) (e : Emission) (o : Output) : Prop where
  opening : t.opening e = .ok o.opening
  enum : ∀ x ∈ e.service.enums, t.enum e x.1 x.2 = .ok (o.enum x)
  treeOpening : t.treeOpening e = .ok o.treeOpening
  scope : ∀ path ∈ e.namespaces, t.scope e path = .ok (o.scope path)
  method : ∀ m ∈ e.service.methods, t.method e m = .ok (o.method m)
  events : t.events e e.service.events = .ok o.events
  closing : t.closing e = .ok o.closing

namespace Output

def parts (o : Output) (e : Emission) : List (Part × List (List String)) :=
  [(.opening, [o.opening]), (.enums, e.service.enums.map o.enum),
    (.tree, o.treeOpening :: e.namespaces.map o.scope), (.methods, e.service.methods.map o.method),
    (.events, [o.events]), (.closing, [o.closing])]

def pieces (o : Output) (e : Emission) : List Piece :=
  (o.parts e).flatMap fun x => x.1.pieces x.2

end Output

variable {t : Target} {e : Emission} {o : Output}

theorem sections_eq (h : t.Writes e o) : t.sections e =
    .ok [o.opening, joinChunks t.separateItems (e.service.enums.map o.enum),
      o.treeOpening ++ (e.namespaces.map o.scope).flatten,
      joinChunks t.separateItems (e.service.methods.map o.method), o.events, o.closing] := by
  have henums := each_eq h.enum
  simp only [sections, h.opening, henums, h.treeOpening, each_eq h.scope, each_eq h.method, h.events,
    h.closing, ok_bind]
  rfl

theorem joinChunks_sections (o : Output) (e : Emission) :
    joinChunks true [o.opening, joinChunks separate (e.service.enums.map o.enum),
      o.treeOpening ++ (e.namespaces.map o.scope).flatten,
      joinChunks separate (e.service.methods.map o.method), o.events, o.closing] =
        spaced separate (written (o.pieces e)) := by
  have hparts : ((o.parts e).map Prod.fst).Nodup := by simp [Output.parts]
  rw [Output.pieces, ← joinChunks_parts hparts]
  simp [Output.parts, Part.hasItems, joinChunks_flatten]

/-- Whatever a target writes for the pieces of a proxy, the text is made of all of it, in order and
each piece once, with an empty line between two neighbours exactly if they are to be kept apart; this
is also what appending section by section comes to, and namespaces come after their own. If the
pieces hold no line feeds, the lines of the text are those of the pieces and the empty lines between
them; if they hold no empty lines either, these are the only ones, and no two of them meet. -/
theorem text_of_pieces (h : t.Writes e o) :
    let ls := spaced t.separateItems (written (o.pieces e))
    let text := "\n".intercalate ls ++ "\n"
    t.compile e = .ok text ∧
      ls = appendAll true [o.opening, appendAll t.separateItems (e.service.enums.map o.enum),
        o.treeOpening ++ (e.namespaces.map o.scope).flatten,
        appendAll t.separateItems (e.service.methods.map o.method), o.events, o.closing] ∧
      AfterParents e.namespaces ∧
      ((∀ p ∈ o.pieces e, ∀ l ∈ p.lines, '\n' ∉ l.toList) → (∃ p ∈ o.pieces e, p.lines ≠ []) →
        text.toList.splitOn '\n' = ls.map String.toList ++ [[]] ∧
          ((∀ p ∈ o.pieces e, ∀ l ∈ p.lines, l ≠ "") → TidyText text.toList)) := by
  intro ls text
  have hlines : t.lines e = .ok ls := by
    simp only [lines, sections_eq h, ok_bind, joinChunks_sections]
    rfl
  refine ⟨?_, ?_, ?_, fun hplain hsome => ?_⟩
  · simp only [compile, hlines, ok_bind]
    rfl
  · simp only [appendAll_eq, joinChunks_sections, ls]
  · exact (Name.namespacePaths_outermostFirst e.service.memberNames).afterParents
  · obtain ⟨p, hp, hpne⟩ := hsome
    have hwritten : p ∈ written (o.pieces e) := List.mem_filter.mpr ⟨hp, by simpa using hpne⟩
    have hne : ls ≠ [] := mt spaced_written_eq_nil.mp (List.ne_nil_of_mem hwritten)
    have hfed : ∀ l ∈ ls, '\n' ∉ l.toList := by
      intro l hl
      rcases mem_spaced hl with rfl | ⟨q, hq, hl⟩
      · simp
      · exact hplain q (List.mem_of_mem_filter hq) l hl
    rw [toList_intercalate hne]
    refine ⟨splitOn_ended hfed, fun hfull => Tidy.text ?_ hfed hne⟩
    refine tidy_spaced (fun q hq => ?_) fun q hq => hfull q (List.mem_of_mem_filter hq)
    simpa using (List.mem_filter.mp hq).2

/-- A language that keeps items apart and has no lines for the tree itself. -/
theorem text_of_jobs_pieces :
    let t : Target := { silent "Outline" "" with
      separateItems := true
      opening := fun e => .ok [e.className]
      enum := fun _ name ms => .ok (name.plain :: ms.map Prod.fst)
      scope := fun _ path => .ok [path ++ "."]
      method := fun _ m => .ok [m.name] }
    let o : Output := {
      opening := ["Jobs"]
      enum := fun x => x.1.plain :: x.2.map Prod.fst
      treeOpening := []
      scope := fun path => [path ++ "."]
      method := fun m => [m.name]
      events := []
      closing := [] }
    let s : Service := { Service.empty (.str "1.0") (.str "Jobs") with
      types := [(.str "Color", .enum [("Red", 0), ("Blue", 2)]), (.str "State", .enum [("Open", 1)])]
      methods := [⟨"jobs.list", [], none, none⟩, ⟨"ping", [], none, none⟩] }
    let text := "Jobs\n\nColor\nRed\nBlue\n\nState\nOpen\n\njobs.\n\njobs.list\n\nping\n"
    t.Writes ⟨s, "Jobs"⟩ o ∧ t.compile ⟨s, "Jobs"⟩ = .ok text ∧ TidyText text.toList := by
  intro t o s text
  have hwrites : t.Writes ⟨s, "Jobs"⟩ o :=
    ⟨rfl, fun _ _ => rfl, rfl, fun _ _ => rfl, fun _ _ => rfl, rfl, rfl⟩
  have htext : "\n".intercalate (spaced t.separateItems (written (o.pieces ⟨s, "Jobs"⟩))) ++ "\n" =
      text := by
    simp only [t, o, s, text]
    decide +kernel
  have hplain : ∀ p ∈ o.pieces ⟨s, "Jobs"⟩, ∀ l ∈ p.lines, '\n' ∉ l.toList ∧ l ≠ "" := by
    simp only [o, s]
    decide +kernel
  obtain ⟨hcompile, -, -, hlines⟩ := text_of_pieces hwrites
  rw [htext] at hcompile hlines
  have hsome : ∃ p ∈ o.pieces ⟨s, "Jobs"⟩, p.lines ≠ [] := by
    simp only [o, s]
    decide +kernel
  obtain ⟨-, htidy⟩ := hlines (fun p hp l hl => (hplain p hp l hl).1) hsome
  exact ⟨hwrites, hcompile, htidy fun p hp l hl => (hplain p hp l hl).2⟩

end Farcall.Target
