/-!
# Application media types

Registered application types, other than those of vendors.
-/

namespace PreviewServer.Media.Builtin

/-- Application media types with their extensions. -/
def application : List (String × List String) :=
  [("application/PowerShell", ["psc1"]),
   ("application/acad", ["dwg"]),
   ("application/andrew-inset", ["ez"]),
   ("application/annodex", ["anx"]),
   ("application/applixware", ["aw"]),
   ("application/atom+xml", ["atom"]),
   ("application/atomcat+xml", ["atomcat"]),
   ("application/atomsvc+xml", ["atomsvc"]),
   ("application/bdoc", ["bdoc"]),
   ("application/ccxml+xml", ["ccxml"]),
   ("application/cdmi-capability", ["cdmia"]),
   ("application/cdmi-container", ["cdmic"]),
   ("application/cdmi-domain", ["cdmid"]),
   ("application/cdmi-object", ["cdmio"]),
   ("application/cdmi-queue", ["cdmiq"]),
   ("application/cu-seeme", ["cu"]),
   ("application/dash+xml", ["mpd"]),
   ("application/davmount+xml", ["davmount"]),
   ("application/directx", ["x"]),
   ("application/docbook+xml", ["dbk"]),
   ("application/dssc+der", ["dssc"]),
   ("application/dssc+xml", ["xdssc"]),
   ("application/emma+xml", ["emma"]),
   ("application/envoy", ["evy"]),
   ("application/epub+zip", ["epub"]),
   ("application/etl", ["etl"]),
   ("application/exi", ["exi"]),
   ("application/font-sfnt", ["otf"]),
   ("application/font-tdpfr", ["pfr"]),
   ("application/font-woff", ["woff"]),
   ("application/fractals", ["fif"]),
   ("application/fsharp-script", ["fsscript", "fsx"]),
   ("application/futuresplash", ["spl"]),
   ("application/geo+json", ["geojson"]),
   ("application/gml+xml", ["gml"]),
   ("application/gpx+xml", ["gpx"]),
   ("application/gxf", ["gxf"]),
   ("application/gzip", ["gz"]),
   ("application/hjson", ["hjson"]),
   ("application/hta", ["hta"]),
   ("application/hyperstudio", ["stk"]),
   ("application/inkml+xml", ["ink", "inkml"]),
   ("application/internet-property-stream", ["acx"]),
   ("application/ipfix", ["ipfix"]),
   ("application/java-archive", ["ear", "jar", "war"]),
   ("application/java-serialized-object", ["ser"]),
   ("application/javascript", ["mjs"]),
   ("application/json", ["json"]),
   ("application/json5", ["json5"]),
   ("application/jsonml+json", ["jsonml"]),
   ("application/ld+json", ["jsonld"]),
   ("application/liquidmotion", ["jck", "jcz"]),
   ("application/lost+xml", ["lostxml"]),
   ("application/mac-binhex40", ["hqx"]),
   ("application/mac-compactpro", ["cpt"]),
   ("application/mads+xml", ["mads"]),
   ("application/manifest+json", ["webmanifest"]),
   ("application/marc", ["mrc"]),
   ("application/marcxml+xml", ["mrcx"]),
   ("application/mathematica", ["ma", "mb", "nb"]),
   ("application/mathml+xml", ["mathml"]),
   ("application/mbox", ["mbox"]),
   ("application/mediaservercontrol+xml", ["mscml"]),
   ("application/metalink+xml", ["metalink"]),
   ("application/metalink4+xml", ["meta4"]),
   ("application/mets+xml", ["mets"]),
   ("application/mods+xml", ["mods"]),
   ("application/mp21", ["m21", "mp21"]),
   ("application/mp4", ["mp4s"]),
   ("application/mpeg", ["amc"]),
   ("application/ms-vsi", ["vsi"]),
   ("application/msaccess", ["accdb", "accde", "accdt", "ade", "adp", "mda", "mde"]),
   ("application/msaccess.addin", ["accda"]),
   ("application/msaccess.cab", ["accdc"]),
   ("application/msaccess.ftemplate", ["accft"]),
   ("application/msaccess.runtime", ["accdr"]),
   ("application/msaccess.webapplication", ["accdw"]),
   ("application/msword", ["doc", "dot", "wbk", "wiz"]),
   ("application/mxf", ["mxf"]),
   ("application/n-quads", ["nq"]),
   ("application/n-triples", ["nt"]),
   ("application/octet-stream", ["aaf", "aca", "afm", "asd", "asi", "bin", "bpk", "buffer", "cab",
      "cur", "dat", "deb", "deploy", "dist", "distz", "dmg", "dms", "dsp", "dump", "dwp", "elc",
      "emz", "exe", "fla", "hhk", "hhp", "hxd", "hxh", "hxi", "hxq", "hxr", "hxs", "hxw", "img",
      "inf", "iso", "java", "jpb", "lpk", "lrf", "lzh", "mar", "mdp", "mix", "msi", "msm", "mso",
      "msp", "ocx", "pcx", "pcz", "pfb", "pfm", "pkg", "prm", "prx", "psd", "psm", "psp", "qxd",
      "rvt", "sea", "smi", "snp", "so", "thn", "toc", "u32", "xmp", "xsn", "xtp"]),
   ("application/oda", ["oda"]),
   ("application/oebps-package+xml", ["opf"]),
   ("application/ogg", ["ogx"]),
   ("application/olescript", ["axs"]),
   ("application/omdoc+xml", ["omdoc"]),
   ("application/onenote", ["one", "onea", "onepkg", "onetmp", "onetoc", "onetoc2"]),
   ("application/opensearchdescription+xml", ["osdx"]),
   ("application/oxps", ["oxps"]),
   ("application/patch-ops-error+xml", ["xer"]),
   ("application/pdf", ["pdf"]),
   ("application/pgp-encrypted", ["pgp"]),
   ("application/pgp-signature", ["asc", "sig"]),
   ("application/pics-rules", ["prf"]),
   ("application/pkcs10", ["p10"]),
   ("application/pkcs7-mime", ["p7c", "p7m"]),
   ("application/pkcs7-signature", ["p7s"]),
   ("application/pkcs8", ["p8"]),
   ("application/pkix-attr-cert", ["ac"]),
   ("application/pkix-crl", ["crl"]),
   ("application/pkix-pkipath", ["pkipath"]),
   ("application/pkixcmp", ["pki"]),
   ("application/postscript", ["ai", "eps", "ps"]),
   ("application/prs.cww", ["cww"]),
   ("application/pskc+xml", ["pskcxml"]),
   ("application/raml+yaml", ["raml"]),
   ("application/rat-file", ["rat"]),
   ("application/rdf+xml", ["rdf"]),
   ("application/reginfo+xml", ["rif"]),
   ("application/relax-ng-compact-syntax", ["rnc"]),
   ("application/resource-lists+xml", ["rl"]),
   ("application/resource-lists-diff+xml", ["rld"]),
   ("application/rpki-ghostbusters", ["gbr"]),
   ("application/rpki-manifest", ["mft"]),
   ("application/rpki-roa", ["roa"]),
   ("application/rsd+xml", ["rsd"]),
   ("application/rss+xml", ["rss"]),
   ("application/rtf", ["rtf"]),
   ("application/sbml+xml", ["sbml"]),
   ("application/scvp-cv-request", ["scq"]),
   ("application/scvp-cv-response", ["scs"]),
   ("application/scvp-vp-request", ["spq"]),
   ("application/scvp-vp-response", ["spp"]),
   ("application/sdp", ["sdp"]),
   ("application/set-payment-initiation", ["setpay"]),
   ("application/set-registration-initiation", ["setreg"]),
   ("application/shf+xml", ["shf"]),
   ("application/smil+xml", ["smil"]),
   ("application/sparql-query", ["rq"]),
   ("application/sparql-results+xml", ["srx"]),
   ("application/srgs", ["gram"]),
   ("application/srgs+xml", ["grxml"]),
   ("application/sru+xml", ["sru"]),
   ("application/ssdl+xml", ["ssdl"]),
   ("application/ssml+xml", ["ssml"]),
   ("application/step", ["step", "stp"]),
   ("application/streamingmedia", ["ssm"]),
   ("application/tei+xml", ["tei", "teicorpus"]),
   ("application/thraud+xml", ["tfi"]),
   ("application/timestamped-data", ["tsd"]),
   ("application/trig", ["trig"]),
   ("application/voicexml+xml", ["vxml"]),
   ("application/vsix", ["vsix"]),
   ("application/wasm", ["wasm"]),
   ("application/widget", ["wgt"]),
   ("application/windows-library+xml", ["library-ms"]),
   ("application/winhlp", ["hlp"]),
   ("application/wlmoviemaker", ["wlmp"]),
   ("application/wspolicy+xml", ["wspolicy"]),
   ("application/xaml+xml", ["xaml"]),
   ("application/xcap-diff+xml", ["xdf"]),
   ("application/xenc+xml", ["xenc"]),
   ("application/xhtml+xml", ["xht", "xhtml"]),
   ("application/xml", ["asa", "asax", "ascx", "ashx", "asmx", "aspx", "config", "coverage",
      "datasource", "dgml", "filters", "generictest", "hxa", "hxc", "hxe", "hxf", "hxk", "hxv",
      "loadtest", "master", "mtx", "orderedtest", "psess", "rdlc", "resx", "rng", "ruleset",
      "settings", "sitemap", "skin", "snippet", "svc", "testrunconfig", "testsettings", "trx",
      "vcproj", "vcxproj", "vscontent", "vsmdi", "webtest", "wiq", "xmta", "xsc", "xss"]),
   ("application/xop+xml", ["xop"]),
   ("application/xproc+xml", ["xpl"]),
   ("application/xspf+xml", ["xspf"]),
   ("application/xv+xml", ["mxml", "xhvml", "xvm", "xvml"]),
   ("application/yang", ["yang"]),
   ("application/yin+xml", ["yin"]),
   ("application/zip", ["zip"])]

end PreviewServer.Media.Builtin
