import Stencil.Text.Basic

namespace Stencil.Text

def escapeChar (c : Char) : Text :=
  if c = '&' then "&amp;"
  else if c = '<' then "&lt;"
  else if c = '>' then "&gt;"
  else if c = '\'' then "&#39;"
  else if c = '"' then "&#34;"
  else [c]

def escapeMarkup (t : Text) : Text :=
  t.flatMap escapeChar

end Stencil.Text
