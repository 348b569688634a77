import CatalogSearch.Web.QueryString
/-!
Where a request goes. Of an address such as `http://host/api/search?q=x#top` only the path and the query
matter.
-/
namespace CatalogSearch.Web

structure Location where
  path : List Char
  query : List Char

namespace Location

def isControl (c : Char) : Bool := c.toNat ≤ 0x20

def isLetter (c : Char) : Bool := ('a' ≤ c && c ≤ 'z') || ('A' ≤ c && c ≤ 'Z')

def isSchemeChar (c : Char) : Bool := isLetter c || ('0' ≤ c && c ≤ '9') || c == '+' || c == '-' || c == '.'

def withoutScheme (cs : List Char) : List Char :=
  let (scheme, rest) := cs.span isSchemeChar
  if (scheme.head?.map isLetter).getD false && rest.head? == some ':' then rest.tail else cs

def withoutHost : List Char → List Char
  | '/' :: '/' :: cs => cs.dropWhile fun c => c != '/' && c != '?' && c != '#'
  | cs => cs

def cleaned (cs : List Char) : List Char :=
  (cs.dropWhile isControl).filter fun c => c != '\t' && c != '\n' && c != '\r'

def parts (cs : List Char) : List Char × List Char :=
  (withoutHost (withoutScheme (cleaned cs))).span fun c => c != '?' && c != '#'

/-- A path that looks like an address is taken for one in its turn. -/
def read (cs : List Char) : Location :=
  let (path, rest) := parts cs
  let query := match rest with
    | '?' :: query => query.takeWhile (· != '#')
    | _ => []
  ⟨QueryString.decode 0 (QueryString.unescape (parts path).1), query⟩

end Location

end CatalogSearch.Web
