import Handbook.Markup
import Handbook.Settings

/-! Markup that every page carries: the stylesheets and scripts, and the ribbon. -/
namespace Handbook

/-- The image of the ribbon. -/
def ribbonImage : String :=
  "https://s3.amazonaws.com/github/ribbons/forkme_right_darkblue_121621.png"

/-- Where the ribbon stands. -/
def ribbonStyle : String := "position: absolute; top: 0; right: 0; border: 0;"

/-- Stylesheets, viewport and scripts for the head of a page (`render_head_assets`). -/
def headAssets : Markup :=
  "<link rel=\"stylesheet\" href=\"stylesheets/styles.css\">
<link rel=\"stylesheet\" href=\"stylesheets/pygment_trac.css\">
<link rel=\"stylesheet\" href=\"stylesheets/app.css\">
<link rel=\"stylesheet\" href=\"stylesheets/prettify.css\">
<meta name=\"viewport\" content=\"width=device-width, initial-scale=1, user-scalable=no\">
<script src=\"javascripts/jquery-1.8.3.min.js\"></script>
<!--[if lt IE 9]>
<script src=\"//html5shiv.googlecode.com/svn/trunk/html5.js\"></script>
<![endif]-->
".toList

/-- Scripts for the end of the body (`render_foot_assets`). -/
def footAssets : Markup :=
  "<script src=\"javascripts/scale.fix.js\"></script>
<script src=\"javascripts/code.js\"></script>
<script src=\"prettify/prettify.js\"></script>
".toList

/-- The banner in the corner, which leads to the repository (`render_fork_ribbon`). -/
def forkRibbon : Markup :=
  .element "a" [("href", siteRepository)] <|
    .openTag "img" [("style", ribbonStyle), ("src", ribbonImage), ("alt", "Fork me on GitHub")]

end Handbook
