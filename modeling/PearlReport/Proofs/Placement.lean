import PearlReport.Proofs.Tree

/-! Where the parts of a parsed tree stand. What is left after a tree is where passing over it ends,
and after the document of a member a brace comes next exactly if it is the last one. -/

namespace PearlReport.Json

def elementAt (fuel : Nat) (spot : List Char) : Items × Option Rest :=
  match parseValue fuel spot with
  | (d, none) => (.next d (.cut []), none)
  | (d, some rest) => (.next d (parseItems fuel false rest).1, (parseItems fuel false rest).2)

def memberAfter (fuel : Nat) (key : Except Fault String) (after : Rest) :
    Members × Option Rest :=
  match afterKey (parseValue fuel) after with
  | (d, none) => (.next key after d (.cut false []), none)
  | (d, some rest) =>
    (.next key after d (parseMembers fuel false rest).1, (parseMembers fuel false rest).2)

def memberAt (fuel : Nat) (spot : List Char) : Members × Option Rest :=
  match scanString .start spot with
  | .whole (.str key) after => memberAfter fuel (.ok key) after
  | .whole _ after => memberAfter fuel (.error (.next .keyNotString after)) after
  | .flawed fault after => memberAfter fuel (.error fault) after
  | .cut read skip => (.next (.error read) [] (.absent [] skip) (.cut false []), none)

theorem parseItems_succ (fuel : Nat) (first : Bool) (text : List Char) :
    parseItems (fuel + 1) first text =
      match skipSpace text with
      | [] => (.cut [], none)
      | ']' :: rest => (.close (']' :: rest), some rest)
      | ',' :: rest =>
        if first then elementAt fuel (',' :: rest)
        else
          match skipSpace rest with
          | [] => (.cut (',' :: rest), none)
          | ']' :: _ => (.cut (',' :: rest), none)
          | here => elementAt fuel here
      | here => if first then elementAt fuel here else (.cut here, none) := by
  rw [parseItems]
  rfl

theorem parseMembers_succ (fuel : Nat) (first : Bool) (text : List Char) :
    parseMembers (fuel + 1) first text =
      match skipSpace text with
      | [] => (.cut first [], none)
      | '\x7d' :: rest => (.close ('\x7d' :: rest), some rest)
      | '"' :: rest => if first then memberAt fuel rest else (.cut first ('"' :: rest), none)
      | ',' :: rest =>
        if first then (.cut first (',' :: rest), none)
        else
          match skipSpace rest with
          | '"' :: rest => memberAt fuel rest
          | _ => (.cut first (',' :: rest), none)
      | here => (.cut first here, none) := by
  rw [parseMembers]
  rfl

/-- What may come after the document of a member that ends where `rest` is left. -/
def Members.Follows (rest : Rest) : Members → Prop
  | .close _ => ∃ after, skipSpace rest = '\x7d' :: after
  | .next _ _ _ _ => ∀ after, skipSpace rest ≠ '\x7d' :: after
  | .cut _ _ => True

mutual
def Doc.Placed : Doc → Prop
  | .token _ _ => True
  | .array _ items => items.Placed
  | .object _ members => members.Placed
  | .absent _ _ => True
def Items.Placed : Items → Prop
  | .close _ => True
  | .next d more => d.Placed ∧ more.Placed
  | .cut _ => True
def Members.Placed : Members → Prop
  | .close _ => True
  | .next _ _ d more => d.Placed ∧ more.Placed ∧ ∀ rest, d.skip = .ok rest → more.Follows rest
  | .cut _ _ => True
end

theorem memberAfter_next (fuel : Nat) (key : Except Fault String) (after : Rest) :
    ∃ d more, (memberAfter fuel key after).1 = .next key after d more := by
  rw [memberAfter]
  split
  · exact ⟨_, _, rfl⟩
  · exact ⟨_, _, rfl⟩

theorem memberAt_next (fuel : Nat) (spot : List Char) :
    ∃ key after d more, (memberAt fuel spot).1 = .next key after d more := by
  rw [memberAt]
  split
  · exact ⟨_, _, memberAfter_next ..⟩
  · exact ⟨_, _, memberAfter_next ..⟩
  · exact ⟨_, _, memberAfter_next ..⟩
  · exact ⟨_, _, _, _, rfl⟩

theorem parseMembers_follows (fuel : Nat) (rest : Rest) :
    (parseMembers fuel false rest).1.Follows rest := by
  cases fuel with
  | zero =>
    rw [parseMembers]
    trivial
  | succ fuel =>
    rw [parseMembers_succ]
    split
    · trivial
    · rename_i after h
      exact ⟨after, h⟩
    · trivial
    · rename_i after h
      rw [if_neg (by decide)]
      split
      · rename_i spot _
        obtain ⟨key, after', d, more, hm⟩ := memberAt_next fuel spot
        rw [hm]
        intro _ he
        rw [h] at he
        cases he
      · trivial
    · trivial

theorem Token.stop?_skip {t : Token} {rest : Rest} (h : t.stop? = some rest) :
    t.skip = .ok rest := by
  cases t with
  | whole a stop =>
    cases h
    rfl
  | flawed fault stop =>
    cases h
    rfl
  | cut read skip => cases h

/-- What holds of a tree and what is left after it, for values, elements and members alike. -/
def Sound {α : Type} (placed : α → Prop) (skip : α → Except Fault Rest) (p : α × Option Rest) :
    Prop :=
  placed p.1 ∧ ∀ rest, p.2 = some rest → skip p.1 = .ok rest

theorem Sound.stuck {α : Type} {placed : α → Prop} {skip : α → Except Fault Rest} {a : α}
    (h : placed a) : Sound placed skip (a, none) := by
  refine ⟨h, ?_⟩
  intro rest he
  cases he

theorem Sound.stops {α : Type} {placed : α → Prop} {skip : α → Except Fault Rest} {a : α}
    {rest : Rest} (h : placed a) (hs : skip a = .ok rest) : Sound placed skip (a, some rest) := by
  refine ⟨h, ?_⟩
  intro rest' he
  cases he
  exact hs

variable {fuel : Nat}

theorem elementAt_sound
    (hv : ∀ text, Sound Doc.Placed Doc.skip (parseValue fuel text))
    (hi : ∀ first text, Sound Items.Placed Items.skip (parseItems fuel first text))
    (spot : List Char) : Sound Items.Placed Items.skip (elementAt fuel spot) := by
  have hd := hv spot
  rw [elementAt]
  split
  · rename_i d h
    rw [h] at hd
    exact .stuck ⟨hd.1, trivial⟩
  · rename_i d stop h
    rw [h] at hd
    obtain ⟨hp, hs⟩ := hi false stop
    refine ⟨⟨hd.1, hp⟩, ?_⟩
    intro rest he
    rw [Items.skip, hd.2 stop rfl]
    exact hs rest he

theorem afterKey_sound (hv : ∀ text, Sound Doc.Placed Doc.skip (parseValue fuel text))
    (after : Rest) : Sound Doc.Placed Doc.skip (afterKey (parseValue fuel) after) := by
  rw [afterKey]
  split
  · exact .stuck trivial
  · exact hv _
  · exact .stuck trivial

theorem memberAfter_sound
    (hv : ∀ text, Sound Doc.Placed Doc.skip (parseValue fuel text))
    (hm : ∀ first text, Sound Members.Placed Members.skip (parseMembers fuel first text))
    (key : Except Fault String) (after : Rest) :
    Sound Members.Placed Members.skip (memberAfter fuel key after) := by
  have hd := afterKey_sound hv after
  rw [memberAfter]
  split
  · rename_i d h
    rw [h] at hd
    exact .stuck ⟨hd.1, trivial, fun _ _ => trivial⟩
  · rename_i d stop h
    rw [h] at hd
    have hstop : d.skip = .ok stop := hd.2 stop rfl
    obtain ⟨hp, hs⟩ := hm false stop
    have hfollows : ∀ rest, d.skip = .ok rest →
        (parseMembers fuel false stop).1.Follows rest := by
      intro rest hr
      cases hstop.symm.trans hr
      exact parseMembers_follows fuel stop
    refine ⟨⟨hd.1, hp, hfollows⟩, ?_⟩
    intro rest he
    rw [Members.skip, hstop]
    exact hs rest he

theorem memberAt_sound
    (hv : ∀ text, Sound Doc.Placed Doc.skip (parseValue fuel text))
    (hm : ∀ first text, Sound Members.Placed Members.skip (parseMembers fuel first text))
    (spot : List Char) : Sound Members.Placed Members.skip (memberAt fuel spot) := by
  rw [memberAt]
  split
  · exact memberAfter_sound hv hm _ _
  · exact memberAfter_sound hv hm _ _
  · exact memberAfter_sound hv hm _ _
  · exact .stuck ⟨trivial, trivial, fun _ _ => trivial⟩

theorem parse_sound (fuel : Nat) :
    (∀ text, Sound Doc.Placed Doc.skip (parseValue fuel text)) ∧
    (∀ first text, Sound Items.Placed Items.skip (parseItems fuel first text)) ∧
    (∀ first text, Sound Members.Placed Members.skip (parseMembers fuel first text)) := by
  -- the three functions call each other with one step less
  induction fuel with
  | zero =>
    refine ⟨?_, ?_, ?_⟩
    · intro text
      rw [parseValue]
      exact .stuck trivial
    · intro first text
      rw [parseItems]
      exact .stuck trivial
    · intro first text
      rw [parseMembers]
      exact .stuck trivial
  | succ fuel ih =>
    obtain ⟨hv, hi, hm⟩ := ih
    refine ⟨?_, ?_, ?_⟩
    · intro text
      rw [parseValue]
      split
      · exact .stuck trivial
      · rename_i rest _
        exact hi true rest
      · rename_i rest _
        exact hm true rest
      · split
        · exact ⟨trivial, fun _ he => Token.stop?_skip he⟩
        · exact .stuck trivial
    · intro first text
      rw [parseItems_succ]
      split
      · exact .stuck trivial
      · exact .stops trivial rfl
      · split
        · exact elementAt_sound hv hi _
        · split
          · exact .stuck trivial
          · exact .stuck trivial
          · exact elementAt_sound hv hi _
      · split
        · exact elementAt_sound hv hi _
        · exact .stuck trivial
    · intro first text
      rw [parseMembers_succ]
      split
      · exact .stuck trivial
      · exact .stops trivial rfl
      · split
        · exact memberAt_sound hv hm _
        · exact .stuck trivial
      · split
        · exact .stuck trivial
        · split
          · exact memberAt_sound hv hm _
          · exact .stuck trivial
      · exact .stuck trivial

theorem Doc.parse_placed (text : List Char) : (Doc.parse text).Placed :=
  ((parse_sound _).1 text).1

end PearlReport.Json
