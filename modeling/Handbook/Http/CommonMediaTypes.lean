import Handbook.Http.MediaType

/-! The media types of the endings that the files of a site have as a rule. -/
namespace Handbook.Http

/-- Endings, and what files with them are taken for. -/
def commonMediaTypes : List (String × String) :=
  [("7z", "application/x-7z-compressed"), ("aac", "audio/aac"),
    ("apk", "application/vnd.android.package-archive"), ("asm", "text/plain"),
    ("atom", "application/atom+xml"), ("avi", "video/x-msvideo"), ("avif", "image/avif"),
    ("bmp", "image/bmp"), ("bz2", "application/x-bzip2"), ("c", "text/plain"),
    ("cc", "text/plain"), ("conf", "text/plain"), ("css", "text/css"), ("csv", "text/csv"),
    ("doc", "application/msword"),
    ("docx", "application/vnd.openxmlformats-officedocument.wordprocessingml.document"),
    ("dtd", "application/xml-dtd"), ("eot", "application/vnd.ms-fontobject"),
    ("eps", "application/postscript"), ("epub", "application/epub+zip"), ("flac", "audio/flac"),
    ("flv", "video/x-flv"), ("gif", "image/gif"), ("gz", "application/gzip"),
    ("h", "text/plain"), ("htm", "text/html"), ("html", "text/html"), ("ico", "image/x-icon"),
    ("ics", "text/calendar"), ("jar", "application/java-archive"), ("jpe", "image/jpeg"),
    ("jpeg", "image/jpeg"), ("jpg", "image/jpeg"), ("js", "text/javascript"),
    ("json", "application/json"), ("jsonld", "application/ld+json"),
    ("latex", "application/x-latex"), ("log", "text/plain"), ("markdown", "text/markdown"),
    ("md", "text/markdown"), ("mjs", "application/javascript"), ("mov", "video/quicktime"),
    ("mp3", "audio/mpeg"), ("mp4", "video/mp4"), ("mpeg", "video/mpeg"), ("mpg", "video/mpeg"),
    ("odt", "application/vnd.oasis.opendocument.text"), ("oga", "audio/ogg"),
    ("ogg", "audio/ogg"), ("ogv", "video/ogg"), ("otf", "font/otf"), ("pdf", "application/pdf"),
    ("png", "image/png"), ("ppt", "application/vnd.ms-powerpoint"),
    ("pptx", "application/vnd.openxmlformats-officedocument.presentationml.presentation"),
    ("ps", "application/postscript"), ("rss", "application/rss+xml"), ("rtf", "application/rtf"),
    ("sh", "application/x-sh"), ("svg", "image/svg+xml"), ("svgz", "image/svg+xml"),
    ("swf", "application/x-shockwave-flash"), ("tar", "application/x-tar"),
    ("tex", "application/x-tex"), ("text", "text/plain"), ("tif", "image/tiff"),
    ("tiff", "image/tiff"), ("toml", "text/x-toml"), ("tsv", "text/tab-separated-values"),
    ("ttf", "font/ttf"), ("txt", "text/plain"), ("wasm", "application/wasm"),
    ("wav", "audio/wav"), ("webm", "video/webm"), ("webmanifest", "application/manifest+json"),
    ("webp", "image/webp"), ("woff", "application/font-woff"), ("woff2", "font/woff2"),
    ("xhtml", "application/xhtml+xml"), ("xls", "application/vnd.ms-excel"),
    ("xlsx", "application/vnd.openxmlformats-officedocument.spreadsheetml.sheet"),
    ("xml", "text/xml"), ("yaml", "text/x-yaml"), ("yml", "text/x-yaml"),
    ("zip", "application/zip")]

/-- The types of these endings, and of no other. -/
instance MediaTypes.common : MediaTypes where
  ofEnding? ending := commonMediaTypes.lookup ending

end Handbook.Http
