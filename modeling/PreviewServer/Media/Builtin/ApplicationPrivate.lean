/-!
# Private application media types

Application types whose subtype begins with `x-`.
-/

namespace PreviewServer.Media.Builtin

/-- Private application media types with their extensions. -/
def applicationPrivate : List (String × List String) :=
  [("application/x-7z-compressed", ["7z"]),
   ("application/x-abiword", ["abw"]),
   ("application/x-ace-compressed", ["ace"]),
   ("application/x-arj", ["arj"]),
   ("application/x-authorware-bin", ["aab", "vox", "x32"]),
   ("application/x-authorware-map", ["aam"]),
   ("application/x-authorware-seg", ["aas"]),
   ("application/x-bcpio", ["bcpio"]),
   ("application/x-bittorrent", ["torrent"]),
   ("application/x-blorb", ["blb", "blorb"]),
   ("application/x-bridge-url", ["adobebridge"]),
   ("application/x-bzip", ["bz"]),
   ("application/x-bzip2", ["boz", "bz2"]),
   ("application/x-cbr", ["cb7", "cba", "cbr", "cbt", "cbz"]),
   ("application/x-cdf", ["cdf"]),
   ("application/x-cdlink", ["vcd"]),
   ("application/x-cfs-compressed", ["cfs"]),
   ("application/x-chat", ["chat"]),
   ("application/x-chess-pgn", ["pgn"]),
   ("application/x-chrome-extension", ["crx"]),
   ("application/x-cocoa", ["cco"]),
   ("application/x-compress", ["z"]),
   ("application/x-compressed", ["tgz"]),
   ("application/x-cpio", ["cpio"]),
   ("application/x-csh", ["csh"]),
   ("application/x-debian-package", ["udeb"]),
   ("application/x-dgc-compressed", ["dgc"]),
   ("application/x-director", ["cct", "cst", "cxt", "dcr", "dir", "dxr", "fgd", "swa", "w3d"]),
   ("application/x-doom", ["wad"]),
   ("application/x-dtbncx+xml", ["ncx"]),
   ("application/x-dtbook+xml", ["dtb"]),
   ("application/x-dtbresource+xml", ["res"]),
   ("application/x-dvi", ["dvi"]),
   ("application/x-dxf", ["dxf"]),
   ("application/x-endace-erf", ["erf"]),
   ("application/x-eva", ["eva"]),
   ("application/x-font-bdf", ["bdf"]),
   ("application/x-font-ghostscript", ["gsf"]),
   ("application/x-font-linux-psf", ["psf"]),
   ("application/x-font-pcf", ["pcf"]),
   ("application/x-font-snf", ["snf"]),
   ("application/x-font-type1", ["pfa"]),
   ("application/x-freearc", ["arc"]),
   ("application/x-gca-compressed", ["gca"]),
   ("application/x-glulx", ["ulx"]),
   ("application/x-gnumeric", ["gnumeric"]),
   ("application/x-gramps-xml", ["gramps"]),
   ("application/x-gtar", ["gtar"]),
   ("application/x-hdf", ["hdf"]),
   ("application/x-httpd-php", ["php"]),
   ("application/x-install-instructions", ["install"]),
   ("application/x-internet-signup", ["ins", "isp"]),
   ("application/x-iphone", ["iii"]),
   ("application/x-itunes-ipa", ["ipa"]),
   ("application/x-itunes-ipg", ["ipg"]),
   ("application/x-itunes-ipsw", ["ipsw"]),
   ("application/x-itunes-ite", ["ite"]),
   ("application/x-itunes-itlp", ["itlp"]),
   ("application/x-itunes-itms", ["itms"]),
   ("application/x-itunes-itpc", ["itpc"]),
   ("application/x-java-applet", ["class"]),
   ("application/x-java-archive-diff", ["jardiff"]),
   ("application/x-java-jnlp-file", ["jnlp"]),
   ("application/x-koan", ["skp"]),
   ("application/x-latex", ["latex"]),
   ("application/x-lua-bytecode", ["luac"]),
   ("application/x-lzh-compressed", ["lha"]),
   ("application/x-makeself", ["run"]),
   ("application/x-mie", ["mie"]),
   ("application/x-miva-compiled", ["mvc"]),
   ("application/x-mmxp", ["mxp"]),
   ("application/x-mobipocket-ebook", ["mobi", "prc"]),
   ("application/x-ms-application", ["application"]),
   ("application/x-ms-license", ["slupkg-ms"]),
   ("application/x-ms-manifest", ["manifest"]),
   ("application/x-ms-reader", ["lit"]),
   ("application/x-ms-shortcut", ["lnk"]),
   ("application/x-ms-vsto", ["vsto"]),
   ("application/x-ms-wmd", ["wmd"]),
   ("application/x-ms-wmz", ["wmz"]),
   ("application/x-ms-xbap", ["xbap"]),
   ("application/x-msaccess", ["mdb"]),
   ("application/x-msbinder", ["obd"]),
   ("application/x-mscardfile", ["crd"]),
   ("application/x-msclip", ["clp"]),
   ("application/x-msdownload", ["bat", "com", "dll"]),
   ("application/x-msmediaview", ["m13", "m14", "mvb"]),
   ("application/x-msmetafile", ["emf", "wmf"]),
   ("application/x-msmoney", ["mny"]),
   ("application/x-mspublisher", ["pub"]),
   ("application/x-msschedule", ["scd"]),
   ("application/x-msterminal", ["trm"]),
   ("application/x-mswrite", ["wri"]),
   ("application/x-netcdf", ["nc"]),
   ("application/x-ns-proxy-autoconfig", ["pac"]),
   ("application/x-nzb", ["nzb"]),
   ("application/x-oleobject", ["hhc"]),
   ("application/x-perfmon", ["pma", "pmc", "pml", "pmr", "pmw"]),
   ("application/x-perl", ["pl", "pm"]),
   ("application/x-pkcs12", ["p12", "pfx"]),
   ("application/x-pkcs7-certificates", ["p7b", "spc"]),
   ("application/x-pkcs7-certreqresp", ["p7r"]),
   ("application/x-podcast", ["pcast"]),
   ("application/x-quicktimeplayer", ["qtl"]),
   ("application/x-rar-compressed", ["rar"]),
   ("application/x-research-info-systems", ["ris"]),
   ("application/x-safari-safariextz", ["safariextz"]),
   ("application/x-safari-webarchive", ["webarchive"]),
   ("application/x-sgimb", ["sgimb"]),
   ("application/x-sh", ["sh"]),
   ("application/x-shar", ["shar"]),
   ("application/x-shockwave-flash", ["mfp", "swf"]),
   ("application/x-silverlight-app", ["xap"]),
   ("application/x-smaf", ["mmf"]),
   ("application/x-sql", ["sql"]),
   ("application/x-stuffit", ["sit"]),
   ("application/x-stuffitx", ["sitx"]),
   ("application/x-subrip", ["srt"]),
   ("application/x-sv4cpio", ["sv4cpio"]),
   ("application/x-sv4crc", ["sv4crc"]),
   ("application/x-t3vm-image", ["t3"]),
   ("application/x-tads", ["gam"]),
   ("application/x-tar", ["tar"]),
   ("application/x-tcl", ["tcl", "tk"]),
   ("application/x-tex", ["tex"]),
   ("application/x-tex-tfm", ["tfm"]),
   ("application/x-texinfo", ["texi", "texinfo"]),
   ("application/x-tgif", ["obj"]),
   ("application/x-troff", ["roff", "t", "tr"]),
   ("application/x-troff-man", ["man"]),
   ("application/x-troff-me", ["me"]),
   ("application/x-troff-ms", ["ms"]),
   ("application/x-ustar", ["ustar"]),
   ("application/x-virtualbox-hdd", ["hdd"]),
   ("application/x-virtualbox-ova", ["ova"]),
   ("application/x-virtualbox-ovf", ["ovf"]),
   ("application/x-virtualbox-vbox", ["vbox"]),
   ("application/x-virtualbox-vbox-extpack", ["vbox-extpack"]),
   ("application/x-virtualbox-vdi", ["vdi"]),
   ("application/x-virtualbox-vhd", ["vhd"]),
   ("application/x-virtualbox-vmdk", ["vmdk"]),
   ("application/x-wais-source", ["src"]),
   ("application/x-web-app-manifest+json", ["webapp"]),
   ("application/x-wlpg-detect", ["wlpginstall"]),
   ("application/x-wlpg3-detect", ["wlpginstall3"]),
   ("application/x-x509-ca-cert", ["cer", "crt", "der", "pem"]),
   ("application/x-xfig", ["fig"]),
   ("application/x-xliff+xml", ["xlf"]),
   ("application/x-xpinstall", ["xpi"]),
   ("application/x-xz", ["xz"]),
   ("application/x-zmachine", ["z1", "z2", "z3", "z4", "z5", "z6", "z7", "z8"])]

end PreviewServer.Media.Builtin
