import DatasetForm.Failure

/-!
What can be wrong with a field, and how it is said.
-/

set_option autoImplicit false
set_option relaxedAutoImplicit false

namespace DatasetForm

/-- Why a web address cannot be taken apart. -/
inductive AddressFault
  /-- A bracket stands alone, or something other than a colon and a number stands after a bracketed host. -/
  | brackets
  /-- A bracketed host that begins with `v` is not of the form for future addresses. -/
  | futureHost
  /-- A bracketed host is no address of a network interface. -/
  | host (text : String)
  /-- A bracketed host is an address of version 4. -/
  | bracketedVersion4
  /-- The normal form of the authority holds characters that end an authority. -/
  | disguised (authority : String)
  deriving DecidableEq, Repr

/-- The text of a fault. -/
def AddressFault.message : AddressFault → String
  | .brackets => "Invalid IPv6 URL"
  | .futureHost => "IPvFuture address is invalid"
  | .host text => s!"{Text.quoted text} does not appear to be an IPv4 or IPv6 address"
  | .bracketedVersion4 => "An IPv4 address cannot be in brackets"
  | .disguised authority =>
    s!"netloc '{authority}' contains invalid characters under NFKC normalization"

/-- What is wrong with the value of a field. Limits are values because settings made in code are not
checked for their kind. -/
inductive Complaint
  | required (field : String)
  | tooShort (field : String) (least : Value) (length : Nat)
  | tooLong (field : String) (most : Value) (length : Nat)
  | nearLimit (field : String) (length : Nat) (most : Value)
  | yearKind
  | yearForm
  | yearRange (least most : Value)
  | version
  | doi
  | address (fault : AddressFault)
  | addressScheme
  | addressHost
  | orcidForm
  | orcidChecksum
  | email
  | dateForm
  | dateBefore (least : Date)
  | dateInFuture
  | dateAfter (most : Date)
  | startDate (complaint : Complaint)
  | endDate (complaint : Complaint)
  | dateOrder
  | mainTitleBlank
  | duplicateTitle
  | extraMainTitle
  | noTitle
  | tooManyTitles (most : Value)
  | noMainTitle
  | tooManyDates (most : Value)
  | noRole
  /-- A rule failed instead of answering. -/
  | failed (failure : Failure)
  /-- A rule made by hand said this. -/
  | other (text : String)

namespace Complaint

/-- The text of a complaint. -/
def message : Complaint → String
  | .required field => s!"{field} is required"
  | .tooShort field least length =>
    s!"{field} must be at least {least.toText} characters (current: {length})"
  | .tooLong field most length => s!"{field} must not exceed {most.toText} characters (current: {length})"
  | .nearLimit field length most =>
    s!"{field} is approaching maximum length ({length}/{most.toText})"
  | .yearKind => "Year must be a valid number"
  | .yearForm => "Year must be a four-digit number"
  | .yearRange least most => s!"Year must be between {least.toText} and {most.toText}"
  | .version => "Invalid semantic version. Use format: MAJOR.MINOR.PATCH (e.g., 1.2.3)"
  | .doi => "Invalid DOI format. Use format: 10.xxxx/xxxxx or https://doi.org/10.xxxx/xxxxx"
  | .address fault => s!"Invalid URL: {fault.message}"
  | .addressScheme => "Invalid URL format. URL must start with http:// or https://"
  | .addressHost => "Invalid URL format. URL is missing a domain"
  | .orcidForm => "Invalid ORCID format. Use format: 0000-0001-2345-6789"
  | .orcidChecksum => "Invalid ORCID checksum. Please verify the ORCID."
  | .email => "Invalid email format"
  | .dateForm => "Invalid date format. Use YYYY, YYYY-MM or YYYY-MM-DD"
  | .dateBefore least => s!"Date must be on or after {least.text}"
  | .dateInFuture => "Date cannot be in the future"
  | .dateAfter most => s!"Date must be on or before {most.text}"
  | .startDate complaint => s!"Start date: {complaint.message}"
  | .endDate complaint => s!"End date: {complaint.message}"
  | .dateOrder => "Start date must not be after end date"
  | .mainTitleBlank => "Main title is required"
  | .duplicateTitle => "This title already exists"
  | .extraMainTitle => "Only one main title is allowed"
  | .noTitle => "At least one title is required"
  | .tooManyTitles most => s!"No more than {most.toText} titles are allowed"
  | .noMainTitle => "A main title is required"
  | .tooManyDates most => s!"No more than {most.toText} dates are allowed"
  | .noRole => "At least one contributor role is required"
  | .failed failure => s!"Validation failed: {failure.message}"
  | .other text => text

end Complaint

end DatasetForm
