import SearchAppliance.Text.Basic

namespace SearchAppliance

/-- Fields of the index that results are made of. -/
inductive Field where
  | identifier
  | address
  | title
  | description
  | lastModified
  | loadDate
  | body
  | heading1
  | heading2
  | heading3
  | heading4
  | heading5
  | heading6
  | size
  | language
  deriving DecidableEq, Repr

namespace Field

/-- All fields, in the order of the schema. -/
def all : List Field :=
  [identifier, address, title, description, lastModified, loadDate, body,
    heading1, heading2, heading3, heading4, heading5, heading6, size, language]

/-- The name of the field in stored documents. -/
def name : Field → String
  | identifier => "id"
  | address => "sku"
  | title => "title"
  | description => "description"
  | lastModified => "last_modified"
  | loadDate => "load_date_dt"
  | body => "text_t"
  | heading1 => "h1_txt"
  | heading2 => "h2_txt"
  | heading3 => "h3_txt"
  | heading4 => "h4_txt"
  | heading5 => "h5_txt"
  | heading6 => "h6_txt"
  | size => "size_i"
  | language => "language_s"

def ofName? (name : Text) : Option Field := all.find? (·.name = name)

def headings : List Field := [heading1, heading2, heading3, heading4, heading5, heading6]

/-- The fields in which words are looked for, in the order in which they are read. -/
def searchable : List Field := [title, description, body] ++ headings

/-- The fields from which marked fragments are taken. -/
def highlighted : List Field := [description, body]

end Field

/-- Tags of the elements inside one result. -/
inductive Tag where
  | cacheLastModified
  | crawlDate
  | url
  | encodedUrl
  | keymatch
  | title
  | rank
  | source
  | fields
  | snippet
  | language
  | features
  deriving DecidableEq, Repr

namespace Tag

def all : List Tag :=
  [cacheLastModified, crawlDate, url, encodedUrl, keymatch, title, rank, source, fields, snippet,
    language, features]

def name : Tag → String
  | cacheLastModified => "CACHE_LAST_MODIFIED"
  | crawlDate => "CRAWLDATE"
  | url => "U"
  | encodedUrl => "UE"
  | keymatch => "GD"
  | title => "T"
  | rank => "RK"
  | source => "ENT_SOURCE"
  | fields => "FS"
  | snippet => "S"
  | language => "LANG"
  | features => "HAS"

end Tag

/-- How the values of a field are taken into a result, when they do not simply become elements. -/
inductive Treatment where
  | identifier
  | address
  | title
  | description
  | lastModified
  | loadDate
  | body
  | heading
  | size
  deriving DecidableEq, Repr

def Treatment.name : Treatment → String
  | identifier => "identifier"
  | address => "url"
  | title => "title"
  | description => "description"
  | lastModified => "last_modified"
  | loadDate => "load_date"
  | body => "body"
  | heading => "heading"
  | size => "size"

namespace Field

/-- The tag under which every value of the field is written as it is. -/
def plainTag? : Field → Option Tag
  | language => some .language
  | _ => none

/-- The treatment of a field whose values are not written as they are. -/
def treatment? : Field → Option Treatment
  | identifier => some .identifier
  | address => some .address
  | title => some .title
  | description => some .description
  | lastModified => some .lastModified
  | loadDate => some .loadDate
  | body => some .body
  | heading1 | heading2 | heading3 | heading4 | heading5 | heading6 => some .heading
  | size => some .size
  | language => none

/-- The names of the fields that a search loads for its hits: those that a result is made of. -/
def requested : List Text :=
  (all.filter fun field => field.plainTag?.isSome || field.treatment?.isSome).map (name ·)

end Field

end SearchAppliance
