import TaintSeed.Proofs.Regex.Search

/-!
# Texts That Mean Themselves

Most characters of an expression stand for themselves, and the dot stands for
itself among others. So a text without the characters that mean something else
is an expression that is found in that very text.

Other texts are not, and two forms of them are common among the names of
methods. In a descriptor the parentheses around the parameters are read as a
group, so the expression asks for the parameters and the result without
anything between them. In the name of an inner class the dollar sign asks for
the end of the text, and then more is asked for.

Nothing is said about whether a text can be read: the limits of the outline
apply to these texts as to any other. If one is read, then character by
character, and what has been read are the sets of these characters in a row.

## Main definitions

* `Regex.operators`: The characters that stand for something else than themselves.
* `Regex.literal`: The expression of one other character.
* `Regex.Misread`: A descriptor with parameters, or a name with a dollar sign.

## Theorems

* `Regex.read?_literal`: What the reader does with such characters.
* `Regex.spans_joinPieces_cons`: The pieces of an alternative follow each other.
* `Regex.foundIn_of_literal`: A text without operators is found in itself.
* `Regex.not_foundIn_of_misread`: A descriptor with parameters is not, nor is the name of an inner
  class.
-/

namespace TaintSeed.Regex

/-- The characters that mean something else than themselves. The dot is not among them: it is one
    of the characters that it stands for. -/
def operators : List Char := ['(', ')', '|', '^', '$', '[', '*', '+', '?', '{', '\\']

/-- One character, or any but the line feed for a dot. -/
def literal (c : Char) : Regex := .one (if c = '.' then .notNewline else .single c.toNat)

/-- How characters are meant where no flag has been set. -/
def noFlags : Flags := ⟨false, false, false⟩

/-! ## Reading -/

/-- The reader has gone on in the same alternative, which now has the given pieces. -/
structure Reader.Follows (s' s : Reader) (pieces : List Regex) : Prop where
  flags : s'.flags = s.flags
  groups : s'.groups = s.groups
  alternatives : s'.alternatives = s.alternatives
  pieces_eq : s'.pieces = pieces

theorem Reader.Follows.trans {s s' s'' : Reader} {pieces pieces' : List Regex}
    (h' : s''.Follows s' pieces') (h : s'.Follows s pieces) : s''.Follows s pieces' :=
  ⟨h'.flags.trans h.flags, h'.groups.trans h.groups, h'.alternatives.trans h.alternatives,
    h'.pieces_eq⟩

theorem outlined?_follows (s s' : Reader) (step : Outline.Step Unit)
    (h : s.outlined? step = some s') : s'.Follows s s.pieces := by
  rcases Option.map_eq_some_iff.1 h with ⟨r, _, rfl⟩
  exact ⟨rfl, rfl, rfl, rfl⟩

theorem push?_follows (s s' : Reader) (r : Regex) (step : Outline.Step Unit)
    (h : s.push? r step = some s') : s'.Follows s (r :: s.pieces) := by
  have hfollows := outlined?_follows _ s' step h
  exact ⟨hfollows.flags, hfollows.groups, hfollows.alternatives, hfollows.pieces_eq⟩

theorem step?_of_not_mem_operators (s : Reader) (c : Char) (cs : List Char) (hc : c ∉ operators)
    (hdot : c ≠ '.') : step? s c cs = (s.pushChar? c.toNat false).map (fun s => (s, cs)) := by
  have hplain : c ∉ '.' :: operators := by simp [hdot, hc]
  unfold step?
  -- Each operator has a case of its own, and so does the dot; the last case is what remains.
  split
  case h_13 => rfl
  all_goals exact absurd (by decide) hplain

theorem step?_literal (s : Reader) (c : Char) (cs : List Char) (r : Reader × List Char)
    (hs : s.flags = noFlags) (hc : c ∉ operators) (h : step? s c cs = some r) :
    r.2 = cs ∧ r.1.Follows s (literal c :: s.pieces) := by
  by_cases hdot : c = '.'
  · subst hdot
    have hpush : step? s '.' cs
        = (s.pushSet? (if s.flags.dotAll then .all else .notNewline)).map (fun s => (s, cs)) := rfl
    rw [hpush, hs] at h
    rcases Option.map_eq_some_iff.1 h with ⟨s', hs', rfl⟩
    exact ⟨rfl, push?_follows s s' _ _ hs'⟩
  · rw [step?_of_not_mem_operators s c cs hc hdot] at h
    rcases Option.map_eq_some_iff.1 h with ⟨s', hs', rfl⟩
    refine ⟨rfl, ?_⟩
    rw [literal, if_neg hdot]
    rw [Reader.pushChar?, hs] at hs'
    exact push?_follows s s' _ _ hs'

/-- Reading goes on behind the first character as the step for it says. -/
theorem read?_cons (fuel : Nat) (s s' : Reader) (c : Char) (cs : List Char)
    (h : read? fuel s (c :: cs) = some s') :
    ∃ fuel' r, step? s c cs = some r ∧ read? fuel' r.1 r.2 = some s' := by
  cases fuel with
  | zero => cases h
  | succ fuel =>
      rw [read?] at h
      split at h
      · cases h
      · rename_i s₁ rest hstep
        exact ⟨fuel, (s₁, rest), hstep, h⟩

/-- Literal characters become pieces one after the other. -/
theorem read?_literal (fuel : Nat) (s s' : Reader) (cs rest : List Char) (hs : s.flags = noFlags)
    (hcs : ∀ c ∈ cs, c ∉ operators) (h : read? fuel s (cs ++ rest) = some s') :
    ∃ fuel' s₁, s₁.Follows s ((cs.map literal).reverse ++ s.pieces) ∧
      read? fuel' s₁ rest = some s' := by
  induction cs generalizing fuel s with
  | nil => exact ⟨fuel, s, ⟨rfl, rfl, rfl, rfl⟩, h⟩
  | cons c cs ih =>
      rcases read?_cons fuel s s' c _ h with ⟨fuel', ⟨s₁, rest'⟩, hstep, hread⟩
      rcases step?_literal s c _ _ hs (hcs c List.mem_cons_self) hstep with ⟨rfl, hone⟩
      have hcs' : ∀ d ∈ cs, d ∉ operators := fun d hd => hcs d (List.mem_cons_of_mem c hd)
      rcases ih fuel' s₁ (hone.flags.trans hs) hcs' hread with ⟨fuel'', s₂, hmore, hrest⟩
      rw [hone.pieces_eq] at hmore
      refine ⟨fuel'', s₂, ?_, hrest⟩
      rw [List.map_cons, List.reverse_cons, List.append_assoc, List.singleton_append]
      exact hmore.trans hone

/-- Literal characters at the end of a text become its last pieces. -/
theorem read?_literal_end (fuel : Nat) (s s' : Reader) (cs : List Char) (hs : s.flags = noFlags)
    (hcs : ∀ c ∈ cs, c ∉ operators) (h : read? fuel s cs = some s') :
    s'.Follows s ((cs.map literal).reverse ++ s.pieces) := by
  rw [← List.append_nil cs] at h
  rcases read?_literal fuel s s' cs [] hs hcs h with ⟨fuel', s₁, hfollows, hend⟩
  rw [read?, Option.some.injEq] at hend
  rw [← hend]
  exact hfollows

/-- A text that is read to its end gives the pieces of its only alternative. -/
theorem ofChars?_eq_some (cs : List Char) (r : Regex) (h : ofChars? cs = some r) :
    ∃ s, read? cs.length ⟨noFlags, [], [], [], false, .start cs.length⟩ cs = some s ∧
      (s.alternatives = [] → r = joinPieces s.pieces) := by
  unfold ofChars? at h
  split at h
  · cases h
  · rename_i s hread
    split at h
    · rcases Option.map_eq_some_iff.1 h with ⟨s', hs', rfl⟩
      have hfollows := outlined?_follows s s' _ hs'
      refine ⟨s, hread, fun hnone => ?_⟩
      rw [Reader.whole, hfollows.alternatives, hnone, hfollows.pieces_eq]
      rfl
    · cases h

/-! ## Finding -/

-- Pieces are given the last one first, so the first piece is at the end of the list.
theorem spans_joinPieces_cons (r : Regex) (rs : List Regex) (p q : Spot) :
    (joinPieces (r :: rs).reverse).Spans p q ↔
      ∃ m, r.Spans p m ∧ (joinPieces rs.reverse).Spans m q := by
  rw [List.reverse_cons]
  cases hrs : rs.reverse with
  | nil => simp [joinPieces, Spans]
  | cons s ss => simp [joinPieces, List.foldl_append, Spans]

theorem spans_joinPieces_append (rs ss : List Regex) (p q : Spot) :
    (joinPieces (rs ++ ss).reverse).Spans p q ↔
      ∃ m, (joinPieces rs.reverse).Spans p m ∧ (joinPieces ss.reverse).Spans m q := by
  induction rs generalizing p with
  | nil => simp [joinPieces, Spans]
  | cons r rs ih =>
      simp only [List.cons_append, spans_joinPieces_cons, ih]
      constructor
      · rintro ⟨t, ht, m, hm, hq⟩
        exact ⟨m, ⟨t, ht, hm⟩, hq⟩
      · rintro ⟨m, ⟨t, ht, hm⟩, hq⟩
        exact ⟨t, ht, m, hm, hq⟩

theorem spans_literal_self (c : Char) (before : Option Char) (cs : List Char) :
    (literal c).Spans ⟨before, c :: cs⟩ ⟨some c, cs⟩ := by
  rw [literal, spans_one_cons]
  refine ⟨?_, rfl⟩
  by_cases hc : c = '.'
  · subst hc
    rw [if_pos rfl]
    decide
  · rw [if_neg hc]
    simp [CharSet.single, CharSet.contains]

theorem spans_literals_self (cs : List Char) (before : Option Char) :
    ∃ q, (joinPieces (cs.map literal).reverse).Spans ⟨before, cs⟩ q := by
  induction cs generalizing before with
  | nil => exact ⟨_, rfl⟩
  | cons c cs ih =>
      rcases ih (some c) with ⟨q, hq⟩
      rw [List.map_cons]
      exact ⟨q, (spans_joinPieces_cons _ _ _ _).2 ⟨_, spans_literal_self c before cs, hq⟩⟩

/-- A text without operators, read as an expression, is found in itself. -/
theorem foundIn_of_literal (cs : List Char) (r : Regex) (hcs : ∀ c ∈ cs, c ∉ operators)
    (h : ofChars? cs = some r) : r.FoundIn cs := by
  rcases ofChars?_eq_some cs r h with ⟨s, hread, hwhole⟩
  have hfollows := read?_literal_end _ _ s cs rfl hcs hread
  rw [hwhole hfollows.alternatives, hfollows.pieces_eq, List.append_nil]
  exact ⟨[], cs, rfl, spans_literals_self cs none⟩

/-! ## Not finding -/

/-- A descriptor with parameters, or a name with a dollar sign that is not at its end. -/
inductive Misread : List Char → Prop
  | parameters {ps rs : List Char} (takes : ps ≠ []) (gives : rs ≠ [])
      (plain : ∀ c ∈ ps ++ rs, c ∉ operators ∧ c ≠ '.') : Misread ('(' :: ps ++ ')' :: rs)
  | inner {xs ys : List Char} (more : ys ≠ []) (plain : ∀ c ∈ xs ++ ys, c ∉ operators) :
      Misread (xs ++ '$' :: ys)

theorem spans_literal_rest (c : Char) (hdot : c ≠ '.') (p q : Spot) (h : (literal c).Spans p q) :
    p.rest = c :: q.rest := by
  rw [literal, if_neg hdot] at h
  rcases h with ⟨d, hd, hrest, _⟩
  have hcode : d.toNat = c.toNat := by
    simp only [CharSet.single, CharSet.contains, List.any_cons, List.any_nil, Bool.or_false,
      Bool.and_eq_true, decide_eq_true_eq] at hd
    omega
  rw [hrest, Char.toNat_inj.1 hcode]

theorem spans_literals_rest (cs : List Char) (hdot : ∀ c ∈ cs, c ≠ '.') (p q : Spot)
    (h : (joinPieces (cs.map literal).reverse).Spans p q) : p.rest = cs ++ q.rest := by
  induction cs generalizing p with
  | nil =>
      cases h
      rfl
  | cons c cs ih =>
      rw [List.map_cons, spans_joinPieces_cons] at h
      rcases h with ⟨m, hm, hq⟩
      rw [spans_literal_rest c (hdot c List.mem_cons_self) p m hm,
        ih (fun d hd => hdot d (List.mem_cons_of_mem c hd)) m hq, List.cons_append]

-- The parenthesis is followed by a parameter, not by a question mark.
theorem step?_paren (s : Reader) (c : Char) (cs : List Char) (hc : c ∉ operators) :
    step? s '(' (c :: cs) = (s.open? true s.flags).map (fun s => (s, c :: cs)) := by
  simp only [step?]
  split
  · rename_i heq
    rw [List.cons.injEq] at heq
    rw [heq.1] at hc
    exact absurd (by decide) hc
  · rfl

/-- A group adds one piece to what is around it. -/
theorem read?_group (fuel : Nat) (s s' : Reader) (ps rest : List Char) (hs : s.flags = noFlags)
    (hne : ps ≠ []) (hps : ∀ c ∈ ps, c ∉ operators)
    (h : read? fuel s ('(' :: (ps ++ ')' :: rest)) = some s') :
    ∃ fuel' s₁, s₁.Follows s (joinPieces (ps.map literal).reverse :: s.pieces) ∧
      read? fuel' s₁ rest = some s' := by
  rcases List.exists_cons_of_ne_nil hne with ⟨c, cs, rfl⟩
  rcases read?_cons fuel s s' _ _ h with ⟨_, _, hopen, hread⟩
  rw [List.cons_append, step?_paren s c _ (hps c List.mem_cons_self)] at hopen
  rcases Option.map_eq_some_iff.1 hopen with ⟨inner, hinner, rfl⟩
  have hbegin := outlined?_follows _ inner _ hinner
  rcases read?_literal _ inner s' (c :: cs) (')' :: rest) (hbegin.flags.trans hs) hps hread with
    ⟨_, s₁, hmore, hread⟩
  rcases read?_cons _ s₁ s' _ _ hread with ⟨fuel', _, hclose, hread⟩
  have hstep : step? s₁ ')' rest = s₁.close?.map (fun s => (s, rest)) := rfl
  rw [hstep] at hclose
  rcases Option.map_eq_some_iff.1 hclose with ⟨outer, houter, rfl⟩
  -- What was put aside at the opening parenthesis is taken up again.
  rw [Reader.close?, hmore.groups, hbegin.groups] at houter
  have hend := outlined?_follows _ outer _ houter
  refine ⟨fuel', outer, ⟨hend.flags, hend.groups, hend.alternatives, ?_⟩, hread⟩
  have hwhole : s₁.whole = joinPieces s₁.pieces := by
    rw [Reader.whole, hmore.alternatives, hbegin.alternatives]
    rfl
  rw [hend.pieces_eq, hwhole, hmore.pieces_eq, hbegin.pieces_eq, List.append_nil]

/-- A dollar sign asks for the end of the text. -/
theorem read?_dollar (fuel : Nat) (s s' : Reader) (rest : List Char) (hs : s.flags = noFlags)
    (h : read? fuel s ('$' :: rest) = some s') :
    ∃ fuel' s₁, s₁.Follows s (.anchor .textEnd :: s.pieces) ∧ read? fuel' s₁ rest = some s' := by
  rcases read?_cons fuel s s' _ _ h with ⟨fuel', _, hstep, hread⟩
  have hpush : step? s '$' rest = (s.pushAnchor? (if s.flags.lines then .lineEnd else .textEnd)).map
      (fun s => (s, rest)) := rfl
  rw [hpush, hs] at hstep
  rcases Option.map_eq_some_iff.1 hstep with ⟨s₁, hs₁, rfl⟩
  exact ⟨fuel', s₁, push?_follows s s₁ _ _ hs₁, hread⟩

-- In a descriptor, parameters and result are nowhere side by side. If they were, only two other
-- characters would be left, and wherever these are, one of the parentheses is not among them.
theorem descriptor_ne (ps rs xs zs : List Char) (hps : ps ≠ []) (hrs : rs ≠ [])
    (hplain : ∀ c ∈ ps ++ rs, c ∉ operators) :
    '(' :: (ps ++ ')' :: rs) ≠ xs ++ (ps ++ (rs ++ zs)) := by
  rcases List.exists_cons_of_ne_nil hps with ⟨c, cs, rfl⟩
  rcases List.exists_cons_of_ne_nil hrs with ⟨d, ds, rfl⟩
  have hopen : '(' ∉ c :: cs ++ d :: ds := fun h => hplain _ h (by decide)
  have hclose : ')' ∉ c :: cs ++ d :: ds := fun h => hplain _ h (by decide)
  intro heq
  have hlen := congrArg List.length heq
  simp only [List.length_append, List.length_cons] at hlen
  rcases xs with _ | ⟨x, _ | ⟨y, _ | ⟨z, xs⟩⟩⟩
  · have hc : '(' = c := (List.cons.inj heq).1
    exact hopen (hc ▸ List.mem_cons_self)
  · have hd : ')' = d := (List.cons.inj (List.append_cancel_left (List.cons.inj heq).2)).1
    exact hclose (List.mem_append_right _ (hd ▸ List.mem_cons_self))
  · -- The second character is a parameter, and everything behind it are parameters and the result.
    have hzs : zs = [] := List.length_eq_zero_iff.1 (by simp at hlen; omega)
    have hrest : c :: cs ++ ')' :: d :: ds = y :: (c :: cs ++ (d :: ds ++ zs)) :=
      (List.cons.inj heq).2
    have hy : c = y := (List.cons.inj hrest).1
    have hmem : ')' ∈ y :: (c :: cs ++ (d :: ds ++ zs)) := by
      rw [← hrest]
      simp
    rw [hzs, List.append_nil, ← hy] at hmem
    rcases List.mem_cons.1 hmem with hc | hmem
    · exact hclose (hc ▸ List.mem_cons_self)
    · exact hclose hmem
  · simp at hlen
    omega

theorem not_foundIn_descriptor (ps rs : List Char) (r : Regex) (hps : ps ≠ []) (hrs : rs ≠ [])
    (hplain : ∀ c ∈ ps ++ rs, c ∉ operators ∧ c ≠ '.')
    (h : ofChars? ('(' :: ps ++ ')' :: rs) = some r) : ¬ r.FoundIn ('(' :: ps ++ ')' :: rs) := by
  have hps' : ∀ c ∈ ps, c ∉ operators ∧ c ≠ '.' := fun c hc => hplain c (by simp [hc])
  have hrs' : ∀ c ∈ rs, c ∉ operators ∧ c ≠ '.' := fun c hc => hplain c (by simp [hc])
  rcases ofChars?_eq_some _ r h with ⟨s, hread, hwhole⟩
  rcases read?_group _ _ s ps rs rfl hps (fun c hc => (hps' c hc).1) hread with
    ⟨_, s₁, hgroup, hread⟩
  have hrest := read?_literal_end _ s₁ s rs hgroup.flags (fun c hc => (hrs' c hc).1) hread
  rintro ⟨xs, ys, heq, q, hspans⟩
  rw [hwhole (hrest.trans hgroup).alternatives, hrest.pieces_eq, hgroup.pieces_eq,
    ← List.reverse_cons, spans_joinPieces_cons] at hspans
  rcases hspans with ⟨m, hm, hq⟩
  -- The parameters are found where the match begins, and the result right behind them.
  have hys := spans_literals_rest ps (fun c hc => (hps' c hc).2) _ m hm
  rw [spans_literals_rest rs (fun c hc => (hrs' c hc).2) m q hq] at hys
  simp only at hys
  subst hys
  exact descriptor_ne ps rs xs q.rest hps hrs (fun c hc => (hplain c hc).1) heq

theorem not_foundIn_inner (us vs : List Char) (r : Regex) (hvs : vs ≠ [])
    (hplain : ∀ c ∈ us ++ vs, c ∉ operators) (h : ofChars? (us ++ '$' :: vs) = some r) :
    ¬ r.FoundIn (us ++ '$' :: vs) := by
  rcases List.exists_cons_of_ne_nil hvs with ⟨v, vs, rfl⟩
  rcases ofChars?_eq_some _ r h with ⟨s, hread, hwhole⟩
  rcases read?_literal _ _ s us _ rfl (fun c hc => hplain c (by simp [hc])) hread with
    ⟨_, s₁, hfirst, hread⟩
  rcases read?_dollar _ s₁ s _ hfirst.flags hread with ⟨_, s₂, hend, hread⟩
  have hrest := read?_literal_end _ s₂ s (v :: vs) (hend.trans hfirst).flags
    (fun c hc => hplain c (List.mem_append_right us hc)) hread
  have hpieces : s.pieces
      = (us.map literal ++ .anchor .textEnd :: (v :: vs).map literal).reverse := by
    rw [hrest.pieces_eq, hend.pieces_eq, hfirst.pieces_eq]
    simp
  rintro ⟨xs, ys, -, q, hspans⟩
  rw [hwhole (hrest.trans (hend.trans hfirst)).alternatives, hpieces, spans_joinPieces_append]
    at hspans
  rcases hspans with ⟨m, _, hm⟩
  rw [spans_joinPieces_cons] at hm
  rcases hm with ⟨_, ⟨hholds, rfl⟩, hv⟩
  rw [List.map_cons, spans_joinPieces_cons] at hv
  rcases hv with ⟨_, ⟨c, _, hc, _⟩, _⟩
  -- The end has been come to, and there is a character behind it.
  simp [Anchor.holds, Spot.place, hc] at hholds

/-- A descriptor with parameters, read as an expression, is not found in itself, nor is a name with
    a dollar sign before its end. -/
theorem not_foundIn_of_misread (cs : List Char) (r : Regex) (hcs : Misread cs)
    (h : ofChars? cs = some r) : ¬ r.FoundIn cs := by
  cases hcs with
  | parameters hps hrs hplain => exact not_foundIn_descriptor _ _ r hps hrs hplain h
  | inner hvs hplain => exact not_foundIn_inner _ _ r hvs hplain h

end TaintSeed.Regex
