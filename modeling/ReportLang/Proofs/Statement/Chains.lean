import Mathlib.Data.List.DropRight
import ReportLang.Proofs.Result
import ReportLang.Proofs.Statement.Segmenting

/-!
# Chains written out

Periods cut lexemes into segments, and a segment stands for the statements it is written out as:
itself if it has no colon, and otherwise what stands before the colon in front of each of the
comma-separated bodies after it. Segmenting succeeds exactly when a period ends every segment and
every segment has its colons and commas in place, and it yields what the segments are written out
as. Otherwise it fails for the first lexeme out of place, or for a period that is missing at the
end.
-/

namespace ReportLang.Statement

/-- The segments that periods end. -/
def segments (lexemes : List Lexeme) : List (List Lexeme) :=
  (lexemes.splitOn ".").dropLast

/-- The lexemes after the last period. -/
def unfinished (lexemes : List Lexeme) : List Lexeme :=
  lexemes.rtakeWhile (· ≠ ".")

/-- What stands before the first colon. -/
def opening (segment : List Lexeme) : List Lexeme :=
  segment.takeWhile (· ≠ ":")

/-- The bodies between commas after the first colon. -/
def bodies (segment : List Lexeme) : List (List Lexeme) :=
  (segment.dropWhile (· ≠ ":")).tail.splitOn ","

/-- What a segment is written out as. -/
def expansion (segment : List Lexeme) : List (List Lexeme) :=
  if ":" ∈ segment then (bodies segment).map (opening segment ++ ·) else [segment]

/-- The form in which a statement holds a lexeme. In a program that is its lower-case form, unless
it starts with a quote; in a grammar every lexeme stays as it is. -/
def held (mode : Mode) (lexeme : Lexeme) : Lexeme :=
  match mode, lexeme.toList with
  | .grammar, _ => lexeme
  | .statement, '\x27' :: _ => lexeme
  | .statement, '\x60' :: _ => lexeme
  | .statement, _ => Text.lower lexeme

/-- The statements of lexemes that are written out, without those that have no lexemes. -/
def written (mode : Mode) (parts : List (List Lexeme)) : List Statement :=
  (parts.filter (· ≠ [])).map fun lexemes => ⟨lexemes.map (held mode)⟩

/-- The statements that a segment is written out as. -/
def writtenOut (mode : Mode) (segment : List Lexeme) : List Statement :=
  written mode (expansion segment)

/-- A segment has one colon at most, and every comma of it comes after the colon. -/
structure IsChain (segment : List Lexeme) : Prop where
  /-- There is no second colon. -/
  colons : segment.count ":" ≤ 1
  /-- Every comma comes after the colon. -/
  commas : ∀ before after, segment = before ++ "," :: after → ":" ∈ before

/-- A lexeme is out of place after others: a second colon of a segment, or a comma before any colon
of its segment. -/
inductive Offends (before : List Lexeme) : Lexeme → Prop where
  /-- The segment has a colon already. -/
  | colon (second : ":" ∈ unfinished before) : Offends before ":"
  /-- The segment has no colon yet. -/
  | comma (loose : ":" ∉ unfinished before) : Offends before ","

/-- No lexeme is out of place. -/
def InPlace (lexemes : List Lexeme) : Prop :=
  ∀ before lexeme after, lexemes = before ++ lexeme :: after → ¬ Offends before lexeme

/-- The lexemes after the last colon or comma of a segment. -/
def latest (segment : List Lexeme) : List Lexeme :=
  segment.rtakeWhile fun lexeme => lexeme ≠ ":" ∧ lexeme ≠ ","

/-- The chain that a segment begins, in the form in which statements hold it. -/
def begun (mode : Mode) (segment : List Lexeme) : Option (List Lexeme) :=
  if ":" ∈ segment then some ((opening segment).map (held mode)) else none

/-- What a segment that is not ended would be written out as last. -/
def pending (segment : List Lexeme) : List Lexeme :=
  if ":" ∈ segment then opening segment ++ latest segment else segment

section Cutting

variable {lexemes before : List Lexeme} {lexeme : Lexeme} {done : List (List Lexeme)}

/-- A lexeme that is no separator is added to the last part. -/
theorem splitOn_concat {separator : Lexeme} (plain : lexeme ≠ separator)
    (cut : lexemes.splitOn separator = done ++ [before]) :
    (lexemes ++ [lexeme]).splitOn separator = done ++ [before ++ [lexeme]] := by
  induction lexemes generalizing done before with
  | nil =>
    obtain ⟨rfl, rfl⟩ : done = [] ∧ before = [] := by
      simpa [eq_comm, List.append_eq_singleton_iff] using cut
    simp [List.splitOn_cons_eq_if_modifyHead, plain]
  | cons first rest ih =>
    obtain ⟨others, last, split⟩ : ∃ others last, rest.splitOn separator = others ++ [last] := by
      have some := List.splitOn_ne_nil separator rest
      exact ⟨_, _, (List.dropLast_append_getLast some).symm⟩
    rw [List.splitOn_cons_eq_if_modifyHead, split] at cut
    rw [List.cons_append, List.splitOn_cons_eq_if_modifyHead, ih split]
    by_cases here : (first == separator) = true
    · rw [if_pos here] at cut ⊢
      rw [← List.cons_append] at cut ⊢
      obtain ⟨rfl, same⟩ := List.append_inj' cut rfl
      obtain rfl := List.singleton_inj.mp same
      rfl
    · rw [if_neg here] at cut ⊢
      cases others with
      | nil =>
        obtain ⟨rfl, rfl⟩ : done = [] ∧ before = first :: last := by
          simpa [eq_comm, List.append_eq_singleton_iff] using cut
        rfl
      | cons head others =>
        rw [List.cons_append, List.modifyHead_cons, ← List.cons_append] at cut ⊢
        obtain ⟨rfl, same⟩ := List.append_inj' cut rfl
        obtain rfl := List.singleton_inj.mp same
        rfl

/-- A separator ends the last part. -/
theorem splitOn_concat_self (separator : Lexeme) (lexemes : List Lexeme) :
    (lexemes ++ [separator]).splitOn separator = lexemes.splitOn separator ++ [[]] :=
  List.splitOnP_append_cons lexemes [] (beq_self_eq_true separator)

/-- Nothing is unfinished after a period. -/
@[simp] theorem unfinished_concat_period (lexemes : List Lexeme) :
    unfinished (lexemes ++ ["."]) = [] := by
  simp [unfinished]

/-- A lexeme that is no period is added to what is unfinished. -/
theorem unfinished_concat (plain : lexeme ≠ ".") :
    unfinished (lexemes ++ [lexeme]) = unfinished lexemes ++ [lexeme] := by
  simp [unfinished, plain]

/-- Periods cut lexemes into the segments they end and the lexemes after the last of them. -/
theorem splitOn_period (lexemes : List Lexeme) :
    lexemes.splitOn "." = segments lexemes ++ [unfinished lexemes] := by
  induction lexemes using List.reverseRecOn with
  | nil => rfl
  | append_singleton lexemes lexeme ih =>
    by_cases period : lexeme = "."
    · subst period
      rw [segments, splitOn_concat_self, List.dropLast_concat, unfinished_concat_period]
    · rw [segments, splitOn_concat period ih, List.dropLast_concat, unfinished_concat period]

/-- A period ends the segment that is unfinished. -/
theorem segments_concat_period (lexemes : List Lexeme) :
    segments (lexemes ++ ["."]) = segments lexemes ++ [unfinished lexemes] := by
  rw [segments, splitOn_concat_self, List.dropLast_concat, splitOn_period]

/-- A lexeme that is no period ends no segment. -/
theorem segments_concat (plain : lexeme ≠ ".") :
    segments (lexemes ++ [lexeme]) = segments lexemes := by
  rw [segments, splitOn_concat plain (splitOn_period lexemes), List.dropLast_concat]

end Cutting

section Order

variable {lexemes segment : List Lexeme} {lexeme : Lexeme}

/-- Where there are no lexemes, none is out of place. -/
@[simp] theorem inPlace_nil : InPlace [] := by
  intro before lexeme after split
  simp at split

/-- Lexemes stay in place exactly when one that is added is. -/
theorem inPlace_concat :
    InPlace (lexemes ++ [lexeme]) ↔ InPlace lexemes ∧ ¬ Offends lexemes lexeme := by
  constructor
  · intro inPlace
    refine ⟨fun before other after split => ?_, inPlace lexemes lexeme [] rfl⟩
    exact inPlace before other (after ++ [lexeme]) (by simp [split])
  · rintro ⟨inPlace, sound⟩ before other after split
    rcases List.eq_nil_or_concat after with rfl | ⟨rest, last, rfl⟩
    · obtain ⟨rfl, same⟩ := List.append_inj' split rfl
      rwa [← List.singleton_inj.mp same]
    · rw [List.concat_eq_append, ← List.cons_append, ← List.append_assoc] at split
      exact inPlace before other rest (List.append_inj' split rfl).1

/-- Whether a lexeme is out of place depends on the segment it is added to. -/
theorem offends_iff :
    Offends lexemes lexeme ↔ lexeme = ":" ∧ ":" ∈ unfinished lexemes ∨
      lexeme = "," ∧ ":" ∉ unfinished lexemes := by
  constructor
  · rintro (second | loose)
    · exact .inl ⟨rfl, second⟩
    · exact .inr ⟨rfl, loose⟩
  · rintro (⟨rfl, second⟩ | ⟨rfl, loose⟩)
    · exact .colon second
    · exact .comma loose

/-- A segment without lexemes has nothing out of place. -/
@[simp] theorem isChain_nil : IsChain [] where
  colons := by simp
  commas := by simp

/-- A segment that is added to keeps its colons and commas in place exactly when no second colon and
no comma before a colon is added. -/
theorem isChain_concat :
    IsChain (segment ++ [lexeme]) ↔ IsChain segment ∧
      ¬ (lexeme = ":" ∧ ":" ∈ segment ∨ lexeme = "," ∧ ":" ∉ segment) := by
  constructor
  · rintro ⟨colons, commas⟩
    refine ⟨⟨?_, fun before after split => ?_⟩, ?_⟩
    · exact (List.Sublist.count_le ":" (List.sublist_append_left _ _)).trans colons
    · exact commas before (after ++ [lexeme]) (by simp [split])
    · rintro (⟨rfl, second⟩ | ⟨rfl, loose⟩)
      · have counted := List.count_pos_iff.mpr second
        simp at colons
        omega
      · exact loose (commas segment [] rfl)
  · rintro ⟨⟨colons, commas⟩, sound⟩
    refine ⟨?_, fun before after split => ?_⟩
    · by_cases colon : lexeme = ":"
      · have first : ":" ∉ segment := fun second => sound (.inl ⟨colon, second⟩)
        simp [colon, List.count_eq_zero.mpr first]
      · simpa [List.count_append, List.count_singleton, colon] using colons
    · rcases List.eq_nil_or_concat after with rfl | ⟨rest, last, rfl⟩
      · obtain ⟨rfl, same⟩ := List.append_inj' split rfl
        exact not_not.mp fun loose => sound (.inr ⟨List.singleton_inj.mp same, loose⟩)
      · rw [List.concat_eq_append, ← List.cons_append, ← List.append_assoc] at split
        exact commas before rest (List.append_inj' split rfl).1

/-- Lexemes are in place exactly when every segment has its colons and commas in place, the
unfinished one too. -/
theorem inPlace_iff :
    InPlace lexemes ↔ (∀ segment ∈ segments lexemes, IsChain segment) ∧
      IsChain (unfinished lexemes) := by
  induction lexemes using List.reverseRecOn with
  | nil => exact ⟨fun _ => ⟨by simp [segments], isChain_nil⟩, fun _ => inPlace_nil⟩
  | append_singleton lexemes lexeme ih =>
    rw [inPlace_concat, ih, offends_iff]
    by_cases period : lexeme = "."
    · subst period
      simp [segments_concat_period, or_imp, forall_and]
    · rw [segments_concat period, unfinished_concat period, isChain_concat, and_assoc]

end Order

section Expanding

variable {segment : List Lexeme} {lexeme : Lexeme}

/-- What stands before the first colon is not changed by what is added behind it. -/
theorem opening_concat (chained : ":" ∈ segment) (lexeme : Lexeme) :
    opening (segment ++ [lexeme]) = opening segment := by
  rw [opening, List.takeWhile_append, if_neg]
  · rfl
  · intro whole
    have same := (List.takeWhile_sublist _).eq_of_length whole
    have plain := List.mem_takeWhile_imp (same ▸ chained)
    simp at plain

/-- What is added behind the first colon is added to the bodies. -/
theorem bodies_concat (chained : ":" ∈ segment) (lexeme : Lexeme) :
    bodies (segment ++ [lexeme]) =
      ((segment.dropWhile (· ≠ ":")).tail ++ [lexeme]).splitOn "," := by
  have found : segment.dropWhile (· ≠ ":") ≠ [] := by
    simpa [List.dropWhile_eq_nil_iff] using chained
  rw [bodies, List.dropWhile_append, if_neg (by simpa using found),
    List.tail_append_of_ne_nil found]

/-- A first colon makes what stands before it the start of a chain. -/
theorem expansion_concat_colon (first : ":" ∉ segment) :
    opening (segment ++ [":"]) = segment ∧ expansion (segment ++ [":"]) = [segment] := by
  have plain : ∀ lexeme ∈ segment, decide (lexeme ≠ ":") = true := by
    intro lexeme member
    simpa using ne_of_mem_of_not_mem member first
  have opens : opening (segment ++ [":"]) = segment := by
    rw [opening, List.takeWhile_append_of_pos plain]
    simp
  have ends : bodies (segment ++ [":"]) = [[]] := by
    rw [bodies, List.dropWhile_append_of_pos plain]
    simp
  refine ⟨opens, ?_⟩
  rw [expansion, if_pos (by simp), opens, ends]
  simp

/-- A comma in a chain begins another body. -/
theorem expansion_concat_comma (chained : ":" ∈ segment) :
    expansion (segment ++ [","]) = expansion segment ++ [opening segment] := by
  rw [expansion, if_pos (by simp [chained]), opening_concat chained, bodies_concat chained,
    splitOn_concat_self, expansion, if_pos chained, List.map_append]
  simp [bodies]

/-- Any other lexeme is added to the statement that is written out last. -/
theorem expansion_concat {done : List (List Lexeme)} {last : List Lexeme}
    (noColon : lexeme ≠ ":") (noComma : lexeme ≠ ",") (split : expansion segment = done ++ [last]) :
    expansion (segment ++ [lexeme]) = done ++ [last ++ [lexeme]] := by
  by_cases chained : ":" ∈ segment
  · rw [expansion, if_pos chained] at split
    obtain ⟨before, after, same, rfl, ends⟩ := List.map_eq_append_iff.mp split
    obtain ⟨body, rfl, rfl⟩ := List.map_eq_singleton_iff.mp ends
    rw [expansion, if_pos (by simp [chained]), opening_concat chained, bodies_concat chained,
      splitOn_concat noComma same]
    simp
  · rw [expansion, if_neg chained] at split
    obtain ⟨rfl, same⟩ : [] = done ∧ [segment] = [last] := List.append_inj' split rfl
    obtain rfl := List.singleton_inj.mp same
    rw [expansion, if_neg (by simp [chained, noColon.symm])]
    rfl

/-- Nothing stands behind a colon at the end. -/
@[simp] theorem latest_concat_colon (segment : List Lexeme) : latest (segment ++ [":"]) = [] := by
  simp [latest]

/-- Nothing stands behind a comma at the end. -/
@[simp] theorem latest_concat_comma (segment : List Lexeme) : latest (segment ++ [","]) = [] := by
  simp [latest]

/-- Any other lexeme is added to those behind the last colon or comma. -/
theorem latest_concat (noColon : lexeme ≠ ":") (noComma : lexeme ≠ ",") :
    latest (segment ++ [lexeme]) = latest segment ++ [lexeme] := by
  simp [latest, noColon, noComma]

/-- Without a colon, commas are out of place as well. -/
theorem latest_of_not_mem (inPlace : IsChain segment) (plain : ":" ∉ segment) :
    latest segment = segment := by
  refine List.rtakeWhile_eq_self_iff.mpr fun lexeme member => ?_
  have noColon : lexeme ≠ ":" := ne_of_mem_of_not_mem member plain
  have noComma : lexeme ≠ "," := by
    rintro rfl
    obtain ⟨before, after, rfl⟩ := List.append_of_mem member
    exact plain (List.mem_append_left _ (inPlace.commas before after rfl))
  simp [noColon, noComma]

/-- The statement that is written out last is the one that is pending. -/
theorem exists_expansion (inPlace : IsChain segment) :
    ∃ done, expansion segment = done ++ [pending segment] := by
  induction segment using List.reverseRecOn with
  | nil => exact ⟨[], rfl⟩
  | append_singleton segment lexeme ih =>
    obtain ⟨inPlace, sound⟩ := isChain_concat.mp inPlace
    obtain ⟨done, split⟩ := ih inPlace
    by_cases colon : lexeme = ":"
    · subst colon
      have first : ":" ∉ segment := fun second => sound (.inl ⟨rfl, second⟩)
      obtain ⟨opens, expands⟩ := expansion_concat_colon first
      exact ⟨[], by simp [expands, pending, opens, latest]⟩
    · by_cases comma : lexeme = ","
      · subst comma
        have chained : ":" ∈ segment := not_not.mp fun loose => sound (.inr ⟨rfl, loose⟩)
        refine ⟨expansion segment, ?_⟩
        rw [expansion_concat_comma chained, pending, if_pos (by simp [chained]),
          opening_concat chained]
        simp [latest]
      · refine ⟨done, ?_⟩
        rw [expansion_concat colon comma split]
        by_cases chained : ":" ∈ segment
        · simp [pending, chained, opening_concat, latest, colon, comma]
        · simp [pending, chained, Ne.symm colon]

/-- No colon or comma stands before the first colon. -/
theorem plain_of_mem_opening (inPlace : IsChain segment) (member : lexeme ∈ opening segment) :
    lexeme ≠ ":" ∧ lexeme ≠ "," := by
  have noColon : ∀ {other}, other ∈ opening segment → other ≠ ":" := fun among => by
    simpa using List.mem_takeWhile_imp among
  refine ⟨noColon member, ?_⟩
  rintro rfl
  obtain ⟨before, after, split⟩ := List.append_of_mem member
  have whole : segment = before ++ "," :: (after ++ segment.dropWhile (· ≠ ":")) := by
    rw [← List.cons_append, ← List.append_assoc, ← split]
    exact List.takeWhile_append_dropWhile.symm
  have colon := inPlace.commas before _ whole
  exact noColon (split ▸ List.mem_append_left _ colon) rfl

/-- A segment has its colons and commas in place exactly when it has one colon at most and no comma
stands before it. -/
theorem isChain_iff :
    IsChain segment ↔ segment.count ":" ≤ 1 ∧ "," ∉ opening segment := by
  constructor
  · intro inPlace
    exact ⟨inPlace.colons, fun member => (plain_of_mem_opening inPlace member).2 rfl⟩
  · rintro ⟨colons, loose⟩
    refine ⟨colons, fun before after split => not_not.mp fun plain => loose ?_⟩
    have opens : ∀ lexeme ∈ before ++ [","], decide (lexeme ≠ ":") = true := by
      intro lexeme member
      rcases List.mem_append.mp member with early | last
      · simpa using ne_of_mem_of_not_mem early plain
      · simp [List.mem_singleton.mp last]
    rw [split, opening, List.append_cons, List.takeWhile_append_of_pos opens]
    simp

/-- Whether a segment is a chain can be decided. -/
instance (segment : List Lexeme) : Decidable (IsChain segment) :=
  decidable_of_iff _ isChain_iff.symm

/-- Whether lexemes are in place can be decided. -/
instance (lexemes : List Lexeme) : Decidable (InPlace lexemes) :=
  decidable_of_iff _ inPlace_iff.symm

/-- Whether a lexeme is out of place can be decided. -/
instance (before : List Lexeme) (lexeme : Lexeme) : Decidable (Offends before lexeme) :=
  decidable_of_iff _ offends_iff.symm

/-- No colon or comma is left where a chain is written out. -/
theorem plain_of_mem_expansion (inPlace : IsChain segment) {part : List Lexeme}
    (member : part ∈ expansion segment) :
    ∀ lexeme ∈ part, lexeme ∈ segment ∧ lexeme ≠ ":" ∧ lexeme ≠ "," := by
  induction segment using List.reverseRecOn generalizing part with
  | nil =>
    obtain rfl : part = [] := by simpa [expansion] using member
    simp
  | append_singleton segment last ih =>
    obtain ⟨chain, sound⟩ := isChain_concat.mp inPlace
    have kept : ∀ {other}, other ∈ expansion segment → ∀ lexeme ∈ other,
        lexeme ∈ segment ++ [last] ∧ lexeme ≠ ":" ∧ lexeme ≠ "," := fun among lexeme inside =>
      (ih chain among lexeme inside).imp_left (List.mem_append_left _)
    by_cases colon : last = ":"
    · subst colon
      have first : ":" ∉ segment := fun second => sound (.inl ⟨rfl, second⟩)
      rw [(expansion_concat_colon first).2, List.mem_singleton] at member
      exact kept (by simp [expansion, first, member])
    · by_cases comma : last = ","
      · subst comma
        have chained : ":" ∈ segment := not_not.mp fun loose => sound (.inr ⟨rfl, loose⟩)
        rw [expansion_concat_comma chained, List.mem_append, List.mem_singleton] at member
        rcases member with among | rfl
        · exact kept among
        · intro lexeme inside
          have plain := plain_of_mem_opening chain inside
          exact ⟨List.mem_append_left _ ((List.takeWhile_sublist _).subset inside), plain⟩
      · obtain ⟨done, split⟩ := exists_expansion chain
        rw [expansion_concat colon comma split, List.mem_append, List.mem_singleton] at member
        rcases member with among | rfl
        · exact kept (split ▸ List.mem_append_left _ among)
        · intro lexeme inside
          rcases List.mem_append.mp inside with early | here
          · exact kept (split ▸ List.mem_append_right _ (List.mem_singleton_self _)) lexeme early
          · obtain rfl := List.mem_singleton.mp here
            exact ⟨by simp, colon, comma⟩

end Expanding

section Running

variable (mode : Mode) {before lexemes part : List Lexeme} {lexeme : Lexeme}

/-- A lexeme is kept in the form in which statements hold it. -/
theorem normal_eq_held : normal mode lexeme = held mode lexeme := by
  cases mode with
  | grammar => rfl
  | statement =>
    unfold normal held Lexeme.isLiteral Lexeme.quote?
    cases chars : lexeme.toList with
    | nil => simp
    | cons c rest =>
      by_cases character : c = '\x27'
      · subst character
        rfl
      by_cases string : c = '\x60'
      · subst string
        rfl
      simp [Quote.ofMark?, Quote.mark, character, string]

/-- The statements that are complete after lexemes: those of ended segments, and those of the chain
that is begun but for the last. -/
def complete (mode : Mode) (lexemes : List Lexeme) : List Statement :=
  (segments lexemes).flatMap (writtenOut mode) ++
    written mode (expansion (unfinished lexemes)).dropLast

/-- A part that is put before statements is written out before them. -/
theorem cons_map_held (part : List Lexeme) (statements : List Statement) :
    cons (part.map (held mode)) statements = written mode [part] ++ statements := by
  by_cases blank : part = []
  · simp [cons, written, blank]
  · simp [cons, written, blank]

/-- Parts in a row are written out one after the other. -/
theorem written_append (first later : List (List Lexeme)) :
    written mode (first ++ later) = written mode first ++ written mode later := by
  simp [written]

/-- What a segment has begun, as segmenting holds it, is what it would be written out as last. -/
theorem begun_append_latest (chain : IsChain part) :
    (begun mode part).getD [] ++ (latest part).map (held mode) =
      (pending part).map (held mode) := by
  by_cases chained : ":" ∈ part
  · simp [begun, pending, chained]
  · simp [begun, pending, chained, latest_of_not_mem chain chained]

/-- A chain that is begun goes on with any lexeme. -/
theorem begun_concat (goesOn : ":" ∈ part ∨ lexeme ≠ ":") :
    begun mode (part ++ [lexeme]) = begun mode part := by
  by_cases chained : ":" ∈ part
  · simp [begun, chained, opening_concat]
  · have plain : ":" ≠ lexeme := (goesOn.resolve_left chained).symm
    simp [begun, chained, plain]

/-- A first colon completes nothing. -/
theorem complete_concat_colon (first : ":" ∉ unfinished lexemes) :
    complete mode (lexemes ++ [":"]) = complete mode lexemes := by
  have colon : ":" ≠ "." := by decide
  rw [complete, complete, segments_concat colon, unfinished_concat colon,
    (expansion_concat_colon first).2, expansion, if_neg first]

/-- A comma completes the statement that is pending. -/
theorem complete_concat_comma (chain : IsChain (unfinished lexemes))
    (chained : ":" ∈ unfinished lexemes) :
    complete mode (lexemes ++ [","]) =
      complete mode lexemes ++ written mode [pending (unfinished lexemes)] := by
  have comma : "," ≠ "." := by decide
  obtain ⟨done, split⟩ := exists_expansion chain
  rw [complete, complete, segments_concat comma, unfinished_concat comma,
    expansion_concat_comma chained, List.dropLast_concat, split, List.dropLast_concat,
    written_append, List.append_assoc]

/-- A period completes the statement that is pending. -/
theorem complete_concat_period (chain : IsChain (unfinished lexemes)) :
    complete mode (lexemes ++ ["."]) =
      complete mode lexemes ++ written mode [pending (unfinished lexemes)] := by
  obtain ⟨done, split⟩ := exists_expansion chain
  have ended : complete mode (lexemes ++ ["."]) =
      (segments lexemes).flatMap (writtenOut mode) ++ writtenOut mode (unfinished lexemes) := by
    simp [complete, segments_concat_period, expansion, written]
  rw [ended, writtenOut, complete, split, List.dropLast_concat, written_append, List.append_assoc]

/-- A lexeme that is no separator completes nothing. -/
theorem complete_concat (chain : IsChain (unfinished lexemes)) (plain : lexeme ∉ separators) :
    complete mode (lexemes ++ [lexeme]) = complete mode lexemes := by
  simp only [separators, List.mem_cons, List.not_mem_nil, or_false, not_or] at plain
  obtain ⟨noColon, noComma, noPeriod⟩ := plain
  obtain ⟨done, split⟩ := exists_expansion chain
  rw [complete, complete, segments_concat noPeriod, unfinished_concat noPeriod,
    expansion_concat noColon noComma split, split, List.dropLast_concat, List.dropLast_concat]

/-- After lexemes in place, segmenting has yielded the statements that are complete, and goes on
within the segment that is not ended. -/
theorem segment_append_of_inPlace (inPlace : InPlace before) (rest : List Lexeme) :
    segment mode (before ++ rest) =
      (segmentFrom mode (begun mode (unfinished before))
        ((latest (unfinished before)).map (held mode)) rest).map (complete mode before ++ ·) := by
  induction before using List.reverseRecOn generalizing rest with
  | nil => exact (congrFun Except.map_id _).symm
  | append_singleton before lexeme ih =>
    obtain ⟨inPlace, sound⟩ := inPlace_concat.mp inPlace
    rw [offends_iff] at sound
    have chain := (inPlace_iff.mp inPlace).2
    rw [List.append_assoc, List.singleton_append, ih inPlace, segmentFrom]
    by_cases colon : lexeme = ":"
    · subst colon
      have first : ":" ∉ unfinished before := fun second => sound (.inl ⟨rfl, second⟩)
      have opens := (expansion_concat_colon first).1
      rw [complete_concat_colon mode first, unfinished_concat (by decide)]
      simp [begun, first, opens, latest_of_not_mem chain first]
    by_cases comma : lexeme = ","
    · subst comma
      have chained : ":" ∈ unfinished before := not_not.mp fun loose => sound (.inr ⟨rfl, loose⟩)
      rw [if_neg colon, if_pos rfl, begun_append_latest mode chain,
        complete_concat_comma mode chain chained,
        unfinished_concat (by decide), begun_concat mode (.inl chained)]
      simp [begun, chained, Result.map_map, cons_map_held]
    by_cases period : lexeme = "."
    · subst period
      rw [if_neg colon, if_neg comma, if_pos rfl, begun_append_latest mode chain,
        complete_concat_period mode chain, unfinished_concat_period]
      simp [begun, latest, Result.map_map, cons_map_held]
    · have plain : lexeme ∉ separators := by simp [separators, colon, comma, period]
      rw [if_neg colon, if_neg comma, if_neg period, normal_eq_held,
        complete_concat mode chain plain, unfinished_concat period,
        begun_concat mode (.inr colon), latest_concat colon comma]
      simp

/-- The failure of segmenting for a lexeme out of place. -/
def offence (mode : Mode) (before : List Lexeme) (lexeme : Lexeme) : SegmentError :=
  let body := (latest (unfinished before)).map (held mode)
  if lexeme = ":" then .unexpectedChain body else .unexpectedSeparator body

/-- Segmenting fails for a lexeme out of place if no other one is before it. -/
theorem segment_of_offends (inPlace : InPlace before) (offends : Offends before lexeme)
    (rest : List Lexeme) :
    segment mode (before ++ lexeme :: rest) = .error (offence mode before lexeme) := by
  rw [segment_append_of_inPlace mode inPlace, segmentFrom]
  cases offends with
  | colon second => simp [begun, second, offence, Except.map]
  | comma loose => simp [begun, loose, offence, Except.map]

/-- Segmenting succeeds for lexemes in place if a period ends them, and fails otherwise. -/
theorem segment_of_inPlace (inPlace : InPlace lexemes) :
    segment mode lexemes =
      if unfinished lexemes = [] then .ok ((segments lexemes).flatMap (writtenOut mode))
      else .error (.missingTerminator ((pending (unfinished lexemes)).map (held mode))) := by
  have chain := (inPlace_iff.mp inPlace).2
  have run := segment_append_of_inPlace mode inPlace []
  rw [List.append_nil, segmentFrom, begun_append_latest mode chain] at run
  by_cases ended : unfinished lexemes = []
  · rw [run, if_pos ended]
    simp [ended, begun, latest, complete, expansion, written, Except.map]
  · have some : ((begun mode (unfinished lexemes)).isSome ||
        !((latest (unfinished lexemes)).map (held mode)).isEmpty) = true := by
      by_cases chained : ":" ∈ unfinished lexemes
      · simp [begun, chained]
      · simp [latest_of_not_mem chain chained, ended]
    rw [run, if_neg ended, if_pos some]
    rfl

/-- A first lexeme out of place is found, if lexemes are not in place. -/
theorem exists_offends (outOfPlace : ¬ InPlace lexemes) :
    ∃ before lexeme after, lexemes = before ++ lexeme :: after ∧ InPlace before ∧
      Offends before lexeme := by
  induction lexemes using List.reverseRecOn with
  | nil => exact absurd inPlace_nil outOfPlace
  | append_singleton lexemes lexeme ih =>
    by_cases inPlace : InPlace lexemes
    · have offends : Offends lexemes lexeme := not_not.mp fun sound =>
        outOfPlace (inPlace_concat.mpr ⟨inPlace, sound⟩)
      exact ⟨lexemes, lexeme, [], rfl, inPlace, offends⟩
    · obtain ⟨before, other, after, split, first, offends⟩ := ih inPlace
      exact ⟨before, other, after ++ [lexeme], by simp [split], first, offends⟩

/-- Segmenting starts afresh after a segment that a period ends. -/
theorem segment_append_period (chain : IsChain part) (whole : "." ∉ part)
    (rest : List Lexeme) :
    segment mode (part ++ "." :: rest) = (segment mode rest).map (writtenOut mode part ++ ·) := by
  have cut : unfinished part = part := by
    refine List.rtakeWhile_eq_self_iff.mpr fun lexeme member => ?_
    simpa using ne_of_mem_of_not_mem member whole
  have alone : segments part = [] := by
    rw [segments, List.splitOn_eq_singleton whole]
    rfl
  have inPlace : InPlace (part ++ ["."]) := by
    rw [inPlace_iff, segments_concat_period, alone, unfinished_concat_period, cut]
    simpa using chain
  have run := segment_append_of_inPlace mode inPlace rest
  rw [unfinished_concat_period, List.append_assoc, List.singleton_append] at run
  rw [run]
  simp [complete, segments_concat_period, alone, cut, expansion, written, begun, latest, segment]

/-- Statements that are written out one by one are segmented as they stand. -/
theorem segment_flatMap_period {parts : List (List Lexeme)}
    (plain : ∀ part ∈ parts, ∀ lexeme ∈ part, lexeme ∉ separators) (rest : List Lexeme) :
    segment mode (parts.flatMap (· ++ ["."]) ++ rest) =
      (segment mode rest).map (written mode parts ++ ·) := by
  induction parts with
  | nil => exact (congrFun Except.map_id _).symm
  | cons part parts ih =>
    obtain ⟨here, later⟩ := List.forall_mem_cons.mp plain
    have without : ∀ separator ∈ separators, separator ∉ part := fun separator listed member =>
      here separator member listed
    have noColon := without ":" (by decide)
    have noComma := without "," (by decide)
    have chain : IsChain part := by
      refine ⟨by simp [List.count_eq_zero.mpr noColon], fun before after split => ?_⟩
      exact absurd (split ▸ List.mem_append_right _ List.mem_cons_self) noComma
    have first := segment_append_period mode chain (without "." (by decide))
      (parts.flatMap (· ++ ["."]) ++ rest)
    rw [ih later, Result.map_map, writtenOut, expansion, if_neg noColon] at first
    rw [List.flatMap_cons, List.append_assoc, List.append_assoc, List.singleton_append, first]
    simp [← List.append_assoc, ← written_append]

end Running

/-- Segmenting writes out chains. Lexemes form statements exactly when nothing follows the last
period and in every segment there is one colon at most and every comma comes after it; the
statements are then those that the segments are written out as, without those that have no lexemes,
and in a program with every lexeme but a literal in lower case. Otherwise the first lexeme out of
place decides the failure, and only if there is none, a period is missing. So a segment that is a
chain stands for its statements written out one by one. -/
theorem segment_writes_out_chains (mode : Mode) (lexemes : List Lexeme) :
    lexemes.splitOn "." = segments lexemes ++ [unfinished lexemes] ∧
    (∀ statements, segment mode lexemes = .ok statements ↔
      unfinished lexemes = [] ∧ (∀ part ∈ segments lexemes, IsChain part) ∧
        statements = (segments lexemes).flatMap (writtenOut mode)) ∧
    (∀ failure, segment mode lexemes = .error failure ↔
      (∃ before lexeme after, lexemes = before ++ lexeme :: after ∧ InPlace before ∧
        Offends before lexeme ∧ failure = offence mode before lexeme) ∨
      InPlace lexemes ∧ unfinished lexemes ≠ [] ∧
        failure = .missingTerminator ((pending (unfinished lexemes)).map (held mode))) ∧
    ∀ part rest, IsChain part → "." ∉ part →
      segment mode (part ++ "." :: rest) =
        segment mode ((expansion part).flatMap (· ++ ["."]) ++ rest) := by
  refine ⟨splitOn_period lexemes, fun statements => ?_, fun failure => ?_, ?_⟩
  · by_cases inPlace : InPlace lexemes
    · rw [segment_of_inPlace mode inPlace]
      have chains := (inPlace_iff.mp inPlace).1
      by_cases ended : unfinished lexemes = []
      · rw [if_pos ended]
        exact ⟨fun same => ⟨ended, chains, (Except.ok.inj same).symm⟩,
          fun ⟨_, _, same⟩ => same ▸ rfl⟩
      · simp [ended]
    · obtain ⟨before, lexeme, after, rfl, first, offends⟩ := exists_offends inPlace
      rw [segment_of_offends mode first offends]
      refine ⟨fun same => by simp at same, fun ⟨ended, chains, _⟩ => absurd ?_ inPlace⟩
      exact inPlace_iff.mpr ⟨chains, ended ▸ isChain_nil⟩
  · constructor
    · intro failed
      by_cases inPlace : InPlace lexemes
      · rw [segment_of_inPlace mode inPlace] at failed
        split at failed
        · simp at failed
        · exact .inr ⟨inPlace, ‹_›, (Except.error.inj failed).symm⟩
      · obtain ⟨before, lexeme, after, rfl, first, offends⟩ := exists_offends inPlace
        rw [segment_of_offends mode first offends] at failed
        exact .inl ⟨before, lexeme, after, rfl, first, offends, (Except.error.inj failed).symm⟩
    · rintro (⟨before, lexeme, after, rfl, first, offends, rfl⟩ | ⟨inPlace, begun, rfl⟩)
      · exact segment_of_offends mode first offends after
      · rw [segment_of_inPlace mode inPlace, if_neg begun]
  · intro part rest chain whole
    have plain : ∀ piece ∈ expansion part, ∀ lexeme ∈ piece, lexeme ∉ separators := by
      intro piece among lexeme inside
      obtain ⟨member, noColon, noComma⟩ := plain_of_mem_expansion chain among lexeme inside
      simp [separators, noColon, noComma, ne_of_mem_of_not_mem member whole]
    rw [segment_append_period mode chain whole, segment_flatMap_period mode plain, writtenOut]

/-- Two fields are declared in one statement, in letters of either case; those of a literal stay as
they are. A comma before any colon is out of place, and so is a second colon. -/
theorem segment_writes_out_chains_letters :
    segment .statement ["DATA", ":", "A", "VALUE", "\x27Xy", ",", "Öl", ".", "."] =
        .ok [⟨["data", "a", "value", "\x27Xy"]⟩, ⟨["data", "öl"]⟩] ∧
      segment .grammar ["DATA", ":", "A", "."] = .ok [⟨["DATA", "A"]⟩] ∧
      segment .statement ["WRITE", "X", ",", "Y", ":"] =
        .error (.unexpectedSeparator ["write", "x"]) ∧
      segment .statement ["WRITE", ":", "X", ":", "Y", ","] =
        .error (.unexpectedChain ["x"]) ∧
      segment .statement ["WRITE", ":", "X"] = .error (.missingTerminator ["write", "x"]) := by
  refine ⟨?_, ?_, ?_, ?_, ?_⟩
  · exact ((segment_writes_out_chains _ _).2.1 _).mpr (by decide)
  · exact ((segment_writes_out_chains _ _).2.1 _).mpr (by decide)
  · exact ((segment_writes_out_chains _ _).2.2.1 _).mpr
      (.inl ⟨["WRITE", "X"], ",", ["Y", ":"], by decide⟩)
  · exact ((segment_writes_out_chains _ _).2.2.1 _).mpr
      (.inl ⟨["WRITE", ":", "X"], ":", ["Y", ","], by decide⟩)
  · exact ((segment_writes_out_chains _ _).2.2.1 _).mpr (.inr (by decide))

end ReportLang.Statement
