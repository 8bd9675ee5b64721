import Tagdown.Document.NodeRef

/-!
# Options of a conversion

A `TagSet` is a set of tags, kept in ascending order, so that two sets with the same members
are equal. `Options` holds the three sets that a conversion goes by and what it does with an
element that no rule wants.

A tag is put into lower case when it is looked up and when a set is made by `TagSet.ofTags`.
Members that were put in by `insert` stay as they are, and one with a capital letter is never
found.
-/

namespace Tagdown

/-- Put a tag into its place in an ascending list, unless it is there. -/
def insertAscending (tag : String) : List String → List String
  | [] => [tag]
  | t :: ts =>
    if tag < t then tag :: t :: ts
    else if tag = t then t :: ts
    else t :: insertAscending tag ts

theorem mem_insertAscending {tag t : String} {ts : List String} :
    t ∈ insertAscending tag ts ↔ t = tag ∨ t ∈ ts := by
  induction ts with
  | nil => simp [insertAscending]
  | cons u us ih =>
    simp only [insertAscending]
    split
    · simp
    · split
      · rename_i h; simp [h]
      · simp only [List.mem_cons, ih]
        exact or_left_comm

theorem pairwise_insertAscending (tag : String) {ts : List String} (h : ts.Pairwise (· < ·)) :
    (insertAscending tag ts).Pairwise (· < ·) := by
  induction ts with
  | nil => simp [insertAscending]
  | cons u us ih =>
    obtain ⟨hu, hus⟩ := List.pairwise_cons.1 h
    simp only [insertAscending]
    split
    · rename_i hlt
      refine List.pairwise_cons.2 ⟨fun v hv => ?_, h⟩
      rcases List.mem_cons.1 hv with rfl | hv
      · exact hlt
      · exact String.lt_trans hlt (hu v hv)
    · split
      · exact h
      · rename_i hlt hne
        refine List.pairwise_cons.2 ⟨fun v hv => ?_, ih hus⟩
        rcases mem_insertAscending.1 hv with rfl | hv
        · exact Std.lt_of_le_of_ne (String.not_lt.1 hlt) (Ne.symm hne)
        · exact hu v hv

/-- A set of tags. -/
structure TagSet where
  /-- the members in ascending order -/
  tags : List String
  ascending : tags.Pairwise (· < ·)
deriving DecidableEq

namespace TagSet

instance : Membership String TagSet where
  mem set tag := tag ∈ set.tags

instance (tag : String) (set : TagSet) : Decidable (tag ∈ set) :=
  inferInstanceAs (Decidable (tag ∈ set.tags))

/-- The set without members. -/
def empty : TagSet := ⟨[], List.Pairwise.nil⟩

/-- Put a tag into the set as it is. -/
def insert (set : TagSet) (tag : String) : TagSet :=
  ⟨insertAscending tag set.tags, pairwise_insertAscending tag set.ascending⟩

/-- Take a tag out of the set. -/
def erase (set : TagSet) (tag : String) : TagSet :=
  ⟨set.tags.filter (· != tag), set.ascending.filter _⟩

/-- The set of the given strings as they are. -/
def ofStrings (tags : List String) : TagSet :=
  tags.foldl insert empty

/-- The set of the given tags, put into lower case. -/
def ofTags (tags : List String) : TagSet :=
  ofStrings (tags.map Text.asciiLower)

/-- The tag in lower case is a member. -/
def hasTag (set : TagSet) (tag : String) : Bool :=
  decide (Text.asciiLower tag ∈ set)

theorem mem_insert {tag t : String} {set : TagSet} : t ∈ set.insert tag ↔ t = tag ∨ t ∈ set :=
  mem_insertAscending

theorem mem_erase {tag t : String} {set : TagSet} : t ∈ set.erase tag ↔ t ∈ set ∧ t ≠ tag := by
  show t ∈ set.tags.filter (· != tag) ↔ t ∈ set.tags ∧ t ≠ tag
  simp

end TagSet

/-- What happens to an element that no rule matches. -/
inductive UnmatchedPolicy where
  /-- Its children take its place. -/
  | unwrap
  /-- It stays, and its markup shows in the Markdown. -/
  | keep
deriving DecidableEq

/-- The options of a conversion. -/
structure Options where
  /-- elements that are not blank even without content -/
  voidElements : TagSet := .ofTags defaultVoidTags
  /-- elements with no meaning in the white space around them -/
  blockElements : TagSet := .ofTags defaultBlockTags
  /-- elements whose white space is kept -/
  preformatted : TagSet := .ofTags defaultPreformattedTags
  unmatched : UnmatchedPolicy := .unwrap
deriving DecidableEq

namespace Options

def isVoid (options : Options) (tag : String) : Bool :=
  options.voidElements.hasTag tag

def isBlock (options : Options) (tag : String) : Bool :=
  options.blockElements.hasTag tag

def isPreformatted (options : Options) (tag : String) : Bool :=
  options.preformatted.hasTag tag

/-- The node is an element that stands as a block. -/
def isBlockLevel (options : Options) (n : NodeRef) : Bool :=
  n.isElement && options.isBlock n.tagName

end Options

end Tagdown
