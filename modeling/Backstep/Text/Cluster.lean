import Backstep.Text.Joining

/-!
# Clusters

A text falls into clusters, the signs that a reader takes for one. Whether a character continues a
cluster depends on the character and on the cluster alone, so a text is cut from left to right and
every cut is final.
-/

namespace Backstep.Text

/-! ## What the end of a cluster calls for

The characters of a cluster are given last first. -/

/-- Whether they end in a pictograph, marks after it aside. -/
def endsInPictograph : List Char → Bool
  | [] => false
  | c :: before =>
    match Joining.ofChar c with
    | .extending => endsInPictograph before
    | kind => kind == .pictograph

/-- Whether they end in a consonant and a link to the next one, perhaps with marks. The link may
have been seen before. -/
def endsInLink (seen : Bool) : List Char → Bool
  | [] => false
  | c :: before =>
    if Joining.isLinker c then endsInLink true before
    else if Joining.isWithinConjunct c then endsInLink seen before
    else seen && Joining.ofChar c == .consonant

/-- Whether they end in a flag letter without a partner. -/
def endsInHalfFlag (cluster : List Char) : Bool :=
  (cluster.takeWhile fun c => Joining.ofChar c == .flagLetter).length % 2 == 1

/-- Whether a character continues a cluster. -/
def continues : List Char → Char → Bool
  | [], _ => false
  | last :: before, c =>
    let ending := Joining.ofChar last
    if ending = .control || ending = .carriageReturn || ending = .lineFeed then
      ending = .carriageReturn && Joining.ofChar c == .lineFeed
    else
      match Joining.ofChar c with
      | .control | .carriageReturn | .lineFeed => false
      | .extending | .joiner | .spacing => true
      | .plain | .prepended => ending == .prepended
      | .leadingConsonant | .openSyllable | .closedSyllable =>
        ending == .prepended || ending == .leadingConsonant
      | .vowel =>
        ending == .prepended || ending == .leadingConsonant || ending == .vowel
          || ending == .openSyllable
      | .trailingConsonant =>
        ending == .prepended || ending == .vowel || ending == .openSyllable
          || ending == .closedSyllable || ending == .trailingConsonant
      | .flagLetter => ending == .prepended || endsInHalfFlag (last :: before)
      | .pictograph => ending == .prepended || ending == .joiner && endsInPictograph before
      | .consonant => ending == .prepended || endsInLink false (last :: before)

/-! ## Cutting a text -/

/-- The clusters of a text after the characters, last first, that begin its first cluster. -/
def clustersAfter (cluster : List Char) : List Char → List (List Char)
  | [] => [cluster.reverse]
  | c :: rest =>
    if continues cluster c then clustersAfter (c :: cluster) rest
    else cluster.reverse :: clustersAfter [c] rest

def clusters : List Char → List (List Char)
  | [] => []
  | c :: rest => clustersAfter [c] rest

private theorem flatten_clustersAfter (cluster s : List Char) :
    (clustersAfter cluster s).flatten = cluster.reverse ++ s := by
  induction s generalizing cluster with
  | nil => simp [clustersAfter]
  | cons c rest ih =>
    rw [clustersAfter]
    split <;> simp [ih]

private theorem ne_nil_of_mem_clustersAfter {cluster s k : List Char} (h : cluster ≠ [])
    (hk : k ∈ clustersAfter cluster s) : k ≠ [] := by
  induction s generalizing cluster with
  | nil => simp_all [clustersAfter]
  | cons c rest ih =>
    rw [clustersAfter] at hk
    split at hk
    · exact ih (List.cons_ne_nil _ _) hk
    · rcases List.mem_cons.1 hk with rfl | hk
      · simpa using h
      · exact ih (List.cons_ne_nil _ _) hk

/-! ## Printable ASCII -/

/-- Whether a character is a printable one of ASCII. -/
def isPrintableAscii (c : Char) : Bool := 0x20 ≤ c.toNat && c.toNat < 0x7F

end Backstep.Text
