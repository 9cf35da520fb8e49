import SourceHost.Wire.Wired

/-!
# Classifications

The words by which entries and listings are classified.  On the wire such a word is its number in
the order of its kind.
-/

set_option autoImplicit false

namespace SourceHost

/-- How a listing wants to be shown. -/
inductive ListingKind where
  | default
  | list
deriving DecidableEq, Inhabited, Repr

instance : Wired ListingKind where
  shape := .choice 2
  toWire
    | .default => ⟨0, ()⟩
    | .list => ⟨1, ()⟩
  ofWire
    | ⟨0, _⟩ => .default
    | ⟨1, _⟩ => .list

/-- How far the publication of a manga has come. -/
inductive MangaStatus where
  | unknown
  | ongoing
  | completed
  | cancelled
  | hiatus
deriving DecidableEq, Inhabited, Repr

instance : Wired MangaStatus where
  shape := .choice 5
  toWire
    | .unknown => ⟨0, ()⟩
    | .ongoing => ⟨1, ()⟩
    | .completed => ⟨2, ()⟩
    | .cancelled => ⟨3, ()⟩
    | .hiatus => ⟨4, ()⟩
  ofWire
    | ⟨0, _⟩ => .unknown
    | ⟨1, _⟩ => .ongoing
    | ⟨2, _⟩ => .completed
    | ⟨3, _⟩ => .cancelled
    | ⟨4, _⟩ => .hiatus

/-- Who the content is suited for. -/
inductive ContentRating where
  | unknown
  | safe
  | suggestive
  | nsfw
deriving DecidableEq, Inhabited, Repr

instance : Wired ContentRating where
  shape := .choice 4
  toWire
    | .unknown => ⟨0, ()⟩
    | .safe => ⟨1, ()⟩
    | .suggestive => ⟨2, ()⟩
    | .nsfw => ⟨3, ()⟩
  ofWire
    | ⟨0, _⟩ => .unknown
    | ⟨1, _⟩ => .safe
    | ⟨2, _⟩ => .suggestive
    | ⟨3, _⟩ => .nsfw

/-- The direction pages are read in. -/
inductive Viewer where
  | unknown
  | leftToRight
  | rightToLeft
  | vertical
  | webtoon
deriving DecidableEq, Inhabited, Repr

instance : Wired Viewer where
  shape := .choice 5
  toWire
    | .unknown => ⟨0, ()⟩
    | .leftToRight => ⟨1, ()⟩
    | .rightToLeft => ⟨2, ()⟩
    | .vertical => ⟨3, ()⟩
    | .webtoon => ⟨4, ()⟩
  ofWire
    | ⟨0, _⟩ => .unknown
    | ⟨1, _⟩ => .leftToRight
    | ⟨2, _⟩ => .rightToLeft
    | ⟨3, _⟩ => .vertical
    | ⟨4, _⟩ => .webtoon

/-- Whether an entry is worth looking at again. -/
inductive UpdateStrategy where
  | always
  | never
deriving DecidableEq, Inhabited, Repr

instance : Wired UpdateStrategy where
  shape := .choice 2
  toWire
    | .always => ⟨0, ()⟩
    | .never => ⟨1, ()⟩
  ofWire
    | ⟨0, _⟩ => .always
    | ⟨1, _⟩ => .never

end SourceHost
